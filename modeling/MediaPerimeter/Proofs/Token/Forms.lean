import MediaPerimeter.Proofs.Json.Record
import MediaPerimeter.Token.Claims
import MediaPerimeter.Token.Header

/-!
# The form of headers and claims

Both are read twice, once for what they say and once for their form. A reader of records also takes
lists; but a list that one reading takes is too short for the other, so what both readings take is
an object.
-/
namespace MediaPerimeter.Token

open Json Json.Read Outcome

def Names (ms : List (Text × Bytes)) (name : String) (P : Bytes → Prop) : Prop :=
  ∃ v, valuesOf name ms = [v] ∧ P v

def IsHeader (header : Bytes) (d : Text) : Prop :=
  ∃ ms, IsObject header ms ∧ Names ms "alg" (IsString · d)

/-- The header is a list of one string. -/
def IsShortHeader (header : Bytes) (d : Text) : Prop :=
  ∃ t v u w, Blanks header (0x5b :: t) ∧ Blanks t (v ++ u) ∧ IsString v d ∧ Blanks u (0x5d :: w) ∧
    Blanks w []

def Declares (header : Bytes) (d : Text) : Prop := IsHeader header d ∨ IsShortHeader header d

/-- What a rule takes over from a reader of values. -/
theorem of_must {σ α : Type} {name : String} {read : Reader α} {put : α → σ → σ}
    {Is : Bytes → α → Prop} (hread : ∀ {t rest x}, read t = .ok (x, rest) →
      ∃ v, Blanks t (v ++ rest) ∧ Value (v ++ rest) rest ∧ Is v x)
    {f : σ → σ} {t rest : Bytes} (h : (Rule.must name read put).read t = .ok (f, rest)) :
    ∃ v x, Blanks t (v ++ rest) ∧ Value (v ++ rest) rest ∧ Is v x ∧ f = put x := by
  obtain ⟨⟨x, _⟩, hx, h⟩ := map_eq_ok_iff.mp h
  cases h
  obtain ⟨v, hblanks, hvalue, his⟩ := hread hx
  exact ⟨v, x, hblanks, hvalue, his, rfl⟩

def algorithmRule : Rule Text := .must "alg" Json.Read.string fun t _ => t

def AlgorithmMeans (rule : Rule Text) (v : Bytes) (put : Text → Text) : Prop :=
  rule.name = "alg".toList ∧ ∃ s, IsString v s ∧ put = fun _ => s

theorem sound_algorithm : Sound AlgorithmMeans [algorithmRule] := by
  intro rule hrule t put rest h
  obtain rfl := List.mem_singleton.mp hrule
  obtain ⟨v, s, hblanks, hvalue, hstring, rfl⟩ := of_must of_string h
  exact ⟨v, hblanks, hvalue, rfl, s, hstring, rfl⟩

theorem complete_algorithm : Complete AlgorithmMeans [algorithmRule] := by
  rintro rule hrule v put ⟨-, s, hstring, rfl⟩ t rest hblanks -
  obtain rfl := List.mem_singleton.mp hrule
  exact map_eq_ok_iff.mpr ⟨(s, rest), hstring.string_eq hblanks, rfl⟩

theorem sets_algorithm : Sets AlgorithmMeans "alg" id IsString where
  sets := by
    rintro rule v put ⟨-, s, hstring, rfl⟩ _ _
    exact hstring
  keeps := fun rule v put means hname => absurd means.1 hname

theorem of_declaredIn? {header : Bytes} {d : Text} (h : declaredIn? header = some d) :
    IsHeader header d ∨ ∃ u rest, Blanks header (0x5b :: u) ∧ Blanks rest [] ∧
      listRecord "RawHeader" [algorithmRule] [] u = .ok (d, rest) := by
  obtain ⟨rest, hrecord, hrest⟩ := document_eq_ok_iff.mp (toOption_eq_some_iff.mp h)
  obtain ⟨u, ⟨hblanks, hobject⟩ | ⟨hblanks, hlist⟩⟩ := of_record hrecord
  · obtain ⟨ms, seen, hmembers, hcollects, hall⟩ := of_objectRecord sound_algorithm hobject
    have hnames := hcollects.field_of_hasAll sets_algorithm List.mem_cons_self rfl rfl hall
    exact .inl ⟨ms, ⟨u, rest, hblanks, hmembers, hrest⟩, hnames⟩
  · exact .inr ⟨u, rest, hblanks, hrest, hlist⟩

theorem isShortHeader_of_listRecord {header u rest : Bytes} {d : Text}
    (hblanks : Blanks header (0x5b :: u)) (hrest : Blanks rest [])
    (h : listRecord "RawHeader" [algorithmRule] [] u = .ok (d, rest)) : IsShortHeader header d := by
  obtain ⟨⟨d', w⟩, hitems, h⟩ := bind_eq_ok_iff.mp h
  obtain ⟨x, hclose, h⟩ := bind_eq_ok_iff.mp h
  cases h
  obtain ⟨t, put, y, hnext, hread, hitems⟩ := of_recordItems_cons rfl hitems
  cases hitems
  obtain ⟨v, s, hvalue, -, hstring, rfl⟩ := of_must of_string hread
  exact ⟨u, v, _, rest, hblanks, (blanks_of_nextItem hnext).trans hvalue, hstring,
    closeList_eq_ok_iff.mp hclose, hrest⟩

theorem IsHeader.declaredIn?_eq {header : Bytes} {d : Text} (h : IsHeader header d) :
    declaredIn? header = some d := by
  obtain ⟨ms, ⟨u, rest, hblanks, hmembers, hrest⟩, v, hvalues, hstring⟩ := h
  have hmeans : AlgorithmMeans algorithmRule v fun _ => d := ⟨rfl, d, hstring, rfl⟩
  have hcollects := (collects_of_valuesOf rfl hmeans ms [] []).2 hvalues List.not_mem_nil
  refine toOption_eq_some_iff.mpr (document_eq_ok_iff.mpr ⟨rest, ?_, hrest⟩)
  rw [record_object hblanks]
  refine hcollects.objectRecord_eq complete_algorithm ?_ hmembers
  intro rule hrule _
  rw [List.mem_singleton.mp hrule]
  exact List.mem_cons_self

theorem IsShortHeader.declaredIn?_eq {header : Bytes} {d : Text} (h : IsShortHeader header d) :
    declaredIn? header = some d := by
  obtain ⟨t, v, u, rest, hblanks, hitem, hstring, hclose, hrest⟩ := h
  have hread := hstring.string_eq (.refl (v ++ u))
  obtain ⟨w, rfl, -⟩ := hstring
  refine toOption_eq_some_iff.mpr (document_eq_ok_iff.mpr ⟨rest, ?_, hrest⟩)
  rw [record_list hblanks]
  refine bind_eq_ok_iff.mpr ⟨(d, u), ?_, ?_⟩
  · refine bind_eq_ok_iff.mpr ⟨_, mapError_eq_ok_iff.mpr (nextItem_first hitem rfl (by decide)), ?_⟩
    refine bind_eq_ok_iff.mpr ⟨(fun _ => d, u), mapError_eq_ok_iff.mpr ?_, rfl⟩
    exact map_eq_ok_iff.mpr ⟨(d, u), hread, rfl⟩
  · exact bind_eq_ok_iff.mpr ⟨rest, closeList_eq_ok_iff.mpr hclose, rfl⟩

/-- The first reading of a header finds what it declares, and only that. -/
theorem declaredIn?_eq_some_iff {header : Bytes} {d : Text} :
    declaredIn? header = some d ↔ Declares header d := by
  constructor
  · intro h
    rcases of_declaredIn? h with hheader | ⟨u, rest, hblanks, hrest, hlist⟩
    · exact .inl hheader
    · exact .inr (isShortHeader_of_listRecord hblanks hrest hlist)
  · rintro (h | h)
    · exact h.declaredIn?_eq
    · exact h.declaredIn?_eq

theorem nullable_string {t rest : Bytes} {s : Text} (h : Json.Read.string t = .ok (s, rest)) :
    Json.Read.nullable Json.Read.string t = .ok (some s, rest) := by
  obtain ⟨b, u, hblanks, hb, h⟩ := value_eq_ok_iff.mp h
  split at h
  · rename_i u heq
    cases heq
    refine value_eq_ok_iff.mpr ⟨0x22, u, hblanks, hb, map_eq_ok_iff.mpr ⟨(s, rest), ?_, rfl⟩⟩
    exact value_eq_ok_iff.mpr ⟨0x22, u, .refl _, hb, h⟩
  · cases h

theorem follows_of_read {σ τ α β : Type} {name name' : String} {read : Reader α} {read' : Reader β}
    {put : α → σ → σ} {put' : β → τ → τ} (h : ∀ t x rest, read t = .ok (x, rest) →
      EndsNumber rest → ∃ y, read' t = .ok (y, rest)) :
    Follows (Rule.must name read put) (Rule.may name' read' put') := by
  intro t f rest hf ends
  obtain ⟨⟨x, rest⟩, hread, hf⟩ := map_eq_ok_iff.mp hf
  cases hf
  obtain ⟨y, hread'⟩ := h t x rest hread ends
  exact ⟨put' y, map_eq_ok_iff.mpr ⟨(y, rest), hread', rfl⟩⟩

theorem follows_algorithm : Follows algorithmRule (checked "typ" Json.Read.string) :=
  follows_of_read fun _ s _ hread _ => ⟨some s, nullable_string hread⟩

/-- A header that passes both readings is an object. -/
theorem isHeader_of_readings {header : Bytes} {d : Text} (h : declaredIn? header = some d)
    (hform : readHeader header = .ok ()) : IsHeader header d := by
  rcases of_declaredIn? h with hheader | ⟨u, rest, hblanks, hrest, hlist⟩
  · exact hheader
  obtain ⟨rest', hrecord, -⟩ := document_eq_ok_iff.mp hform
  have hfollows : List.Forall₂ Follows [algorithmRule] [checked "typ" Json.Read.string] :=
    .cons follows_algorithm .nil
  have hall : ∀ rule ∈ [algorithmRule], rule.inList = true := by
    intro rule hrule
    rw [List.mem_singleton.mp hrule]
    rfl
  have hmust : (Rule.must "alg" Json.Read.string fun _ (s : Unit) => s).inList = true := rfl
  obtain ⟨f, hf⟩ := record_longer hall hfollows hmust () hblanks hlist
  cases hrecord.symm.trans hf

/-- The payload is an object with exactly these claims. -/
def Presents (payload : Bytes) (claims : Claims) : Prop :=
  ∃ ms, IsObject payload ms ∧ Names ms "v" (IsString · claims.v) ∧
    Names ms "nonce" (IsString · claims.nonce) ∧ Names ms "iat" (IsInteger · claims.iat) ∧
    Names ms "exp" (IsInteger · claims.exp)

inductive ClaimMeans (rule : Rule Claims) (value : Bytes) : (Claims → Claims) → Prop
  | v {s} (hname : rule.name = "v".toList) (h : IsString value s) :
      ClaimMeans rule value fun c => { c with v := s }
  | nonce {s} (hname : rule.name = "nonce".toList) (h : IsString value s) :
      ClaimMeans rule value fun c => { c with nonce := s }
  | iat {n} (hname : rule.name = "iat".toList) (h : IsInteger value n) :
      ClaimMeans rule value fun c => { c with iat := n }
  | exp {n} (hname : rule.name = "exp".toList) (h : IsInteger value n) :
      ClaimMeans rule value fun c => { c with exp := n }

theorem sound_claims : Sound ClaimMeans claimRules := by
  intro rule hrule t put rest h
  simp only [claimRules, List.mem_cons, List.not_mem_nil, or_false] at hrule
  rcases hrule with rfl | rfl | rfl | rfl
  · obtain ⟨v, s, hblanks, hvalue, hstring, rfl⟩ := of_must of_string h
    exact ⟨v, hblanks, hvalue, .v rfl hstring⟩
  · obtain ⟨v, s, hblanks, hvalue, hstring, rfl⟩ := of_must of_string h
    exact ⟨v, hblanks, hvalue, .nonce rfl hstring⟩
  · obtain ⟨v, n, hblanks, hvalue, hinteger, rfl⟩ := of_must of_integer h
    exact ⟨v, hblanks, hvalue, .iat rfl hinteger⟩
  · obtain ⟨v, n, hblanks, hvalue, hinteger, rfl⟩ := of_must of_integer h
    exact ⟨v, hblanks, hvalue, .exp rfl hinteger⟩

theorem sets_v : Sets ClaimMeans "v" Claims.v IsString where
  sets := by
    rintro rule value put (⟨_, h⟩ | ⟨h, _⟩ | ⟨h, _⟩ | ⟨h, _⟩) hname c
    case v => exact h
    all_goals exact absurd (hname.symm.trans h) (by decide)
  keeps := by
    rintro rule value put (⟨h, _⟩ | _ | _ | _) hname c
    case v => exact absurd h hname
    all_goals rfl

theorem sets_nonce : Sets ClaimMeans "nonce" Claims.nonce IsString where
  sets := by
    rintro rule value put (⟨h, _⟩ | ⟨_, h⟩ | ⟨h, _⟩ | ⟨h, _⟩) hname c
    case nonce => exact h
    all_goals exact absurd (hname.symm.trans h) (by decide)
  keeps := by
    rintro rule value put (_ | ⟨h, _⟩ | _ | _) hname c
    case nonce => exact absurd h hname
    all_goals rfl

theorem sets_iat : Sets ClaimMeans "iat" Claims.iat IsInteger where
  sets := by
    rintro rule value put (⟨h, _⟩ | ⟨h, _⟩ | ⟨_, h⟩ | ⟨h, _⟩) hname c
    case iat => exact h
    all_goals exact absurd (hname.symm.trans h) (by decide)
  keeps := by
    rintro rule value put (_ | _ | ⟨h, _⟩ | _) hname c
    case iat => exact absurd h hname
    all_goals rfl

theorem sets_exp : Sets ClaimMeans "exp" Claims.exp IsInteger where
  sets := by
    rintro rule value put (⟨h, _⟩ | ⟨h, _⟩ | ⟨h, _⟩ | ⟨_, h⟩) hname c
    case exp => exact h
    all_goals exact absurd (hname.symm.trans h) (by decide)
  keeps := by
    rintro rule value put (_ | _ | _ | ⟨h, _⟩) hname c
    case exp => exact absurd h hname
    all_goals rfl

theorem of_readClaims {payload : Bytes} {claims : Claims} (h : readClaims payload = .ok claims) :
    Presents payload claims ∨ ∃ u rest, Blanks payload (0x5b :: u) ∧
      listRecord "TokenClaims" claimRules ⟨[], [], 0, 0⟩ u = .ok (claims, rest) := by
  obtain ⟨rest, hrecord, hrest⟩ := document_eq_ok_iff.mp h
  obtain ⟨u, ⟨hblanks, hobject⟩ | ⟨hblanks, hlist⟩⟩ := of_record hrecord
  · obtain ⟨ms, seen, hmembers, hcollects, hall⟩ := of_objectRecord sound_claims hobject
    have hv := hcollects.field_of_hasAll sets_v List.mem_cons_self rfl rfl hall
    have hnonce := hcollects.field_of_hasAll sets_nonce
      (List.mem_cons_of_mem _ List.mem_cons_self) rfl rfl hall
    have hiat := hcollects.field_of_hasAll sets_iat
      (List.mem_cons_of_mem _ (List.mem_cons_of_mem _ List.mem_cons_self)) rfl rfl hall
    have hexp := hcollects.field_of_hasAll sets_exp
      (List.mem_of_getLast? rfl) rfl rfl hall
    exact .inl ⟨ms, ⟨u, rest, hblanks, hmembers, hrest⟩, hv, hnonce, hiat, hexp⟩
  · exact .inr ⟨u, rest, hblanks, hlist⟩

theorem timeLeniently_string {t rest : Bytes} {s : Text} (h : Json.Read.string t = .ok (s, rest))
    (ends : EndsNumber rest) : timeLeniently t = .ok ((), rest) := by
  obtain ⟨v, hblanks, hvalue, u, rfl, hspells⟩ := of_string h
  have hskip := hvalue.skip_eq (.refl _) ends
  exact value_eq_ok_iff.mpr ⟨0x22, u ++ rest, hblanks, rfl, hskip⟩

/-- A number in the place of something else is read to its end. -/
theorem rest_mismatch {expected : String} {b : UInt8} {u rest : Bytes} {n : Number}
    (hb : b = 0x2d ∨ Number.isDigit b = true) (h : Number.read (b :: u) = .ok (n, rest)) :
    (mismatch expected (b :: u)).rest = rest := by
  unfold mismatch
  dsimp only
  split
  case h_7 =>
    rename_i heq
    cases heq
    rw [if_pos hb, h]
  case h_8 =>
    rename_i heq
    cases heq
  all_goals
    rename_i heq
    cases heq
    exact absurd rfl (ne_of_numberStart hb (by decide))

theorem attempt_string {t rest : Bytes} {n : Int} (h : Json.Read.integer t = .ok (n, rest)) :
    attempt (Json.Read.nullable Json.Read.string) t = .ok (none, rest) := by
  obtain ⟨b, u, number, hblanks, hb, hread, -⟩ := read_of_integer h
  have hblank := (StartsScalar.number hb).plain.1
  have hstring : Json.Read.string (b :: u) = .error (mismatch "a string" (b :: u)) := by
    refine ((Blanks.refl _).value_eq hblank _).trans ?_
    split
    · rename_i heq
      cases heq
      exact absurd rfl (ne_of_numberStart hb (by decide))
    · rfl
  have hnullable : Json.Read.nullable Json.Read.string t =
      .error (mismatch "a string" (b :: u)) := by
    refine (hblanks.value_eq hblank _).trans ?_
    split
    · rename_i heq
      cases heq
      exact absurd rfl (ne_of_numberStart hb (by decide))
    · rw [hstring]
      rfl
  unfold attempt
  rw [hnullable]
  dsimp only
  rw [rest_mismatch hb hread]

theorem any_number {t rest : Bytes} {n : Int} (h : Json.Read.integer t = .ok (n, rest))
    (depth : Nat) : ∃ v, Json.Read.any (depth + 1) t = .ok (v, rest) := by
  obtain ⟨b, u, number, hblanks, hb, hread, -⟩ := read_of_integer h
  have hblank := (StartsScalar.number hb).plain.1
  refine ⟨.number number.text, ?_⟩
  rw [Json.Read.any, hblanks.value_eq hblank]
  split
  case h_7 =>
    rename_i heq
    cases heq
    rw [if_pos hb, hread]
    rfl
  case h_8 =>
    rename_i heq
    cases heq
  all_goals
    rename_i heq
    cases heq
    exact absurd rfl (ne_of_numberStart hb (by decide))

theorem attempt_any {t rest : Bytes} {n : Int} (h : Json.Read.integer t = .ok (n, rest)) :
    ∃ v, attempt (Json.Read.any 127) t = .ok (some v, rest) := by
  obtain ⟨v, hv⟩ := any_number h 126
  refine ⟨v, ?_⟩
  unfold attempt
  rw [hv]

theorem follows_claims : List.Forall₂ Follows claimRules [
    .may "exp" timeLeniently fun _ (s : Bool) => s,
    .may "nbf" timeLeniently fun _ s => s,
    .may "sub" (attempt (Json.Read.nullable Json.Read.string)) fun _ s => s,
    .may "iss" (attempt (Json.Read.any 127)) fun _ s => s] := by
  refine .cons ?_ (.cons ?_ (.cons ?_ (.cons ?_ .nil)))
  · exact follows_of_read fun _ _ _ hread ends => ⟨(), timeLeniently_string hread ends⟩
  · exact follows_of_read fun _ _ _ hread ends => ⟨(), timeLeniently_string hread ends⟩
  · exact follows_of_read fun _ _ _ hread _ => ⟨none, attempt_string hread⟩
  · refine follows_of_read fun _ _ _ hread _ => ?_
    obtain ⟨v, hv⟩ := attempt_any hread
    exact ⟨some v, hv⟩

/-- A payload that passes both readings is an object. -/
theorem presents_of_readings {payload : Bytes} {claims : Claims} {named : Bool}
    (h : readClaims payload = .ok claims) (hform : namesAudience payload = .ok named) :
    Presents payload claims := by
  rcases of_readClaims h with hpresents | ⟨u, rest, hblanks, hlist⟩
  · exact hpresents
  obtain ⟨rest', hrecord, -⟩ := document_eq_ok_iff.mp hform
  have hall : ∀ rule ∈ claimRules, rule.inList = true := by
    intro rule hrule
    simp only [claimRules, List.mem_cons, List.not_mem_nil, or_false] at hrule
    rcases hrule with rfl | rfl | rfl | rfl <;> rfl
  have haudience : (Rule.may "aud" (attempt (Json.Read.any 127))
    fun v (_ : Bool) => v.any isAudience).inList = true := rfl
  obtain ⟨f, hf⟩ := record_longer hall follows_claims haudience false hblanks hlist
  cases hrecord.symm.trans hf

end MediaPerimeter.Token
