import MediaPerimeter.Proofs.Json.Written
import MediaPerimeter.Proofs.Token.Verify
import MediaPerimeter.Token.Issue

/-!
# Tokens that are issued

A token that is signed is verified under the same secret: its claims are read back as they were
written, and from then on only the clock decides. Its characters stand for themselves wherever a
token is shown.
-/
namespace MediaPerimeter.Token

open Json Json.Read Outcome

structure Claims.IsTimed (c : Claims) : Prop where
  iat : FitsWord c.iat
  exp : FitsWord c.exp

def Claims.members (c : Claims) : List (Text × Bytes) :=
  [("v".toList, (Json.string c.v).bytes), ("nonce".toList, (Json.string c.nonce).bytes),
    ("iat".toList, (Json.int c.iat).bytes), ("exp".toList, (Json.int c.exp).bytes)]

theorem isObject_claims (c : Claims) : IsObject c.json.bytes c.members := by
  refine isObject_record ?_ (List.cons_ne_nil _ _)
  intro f hf
  simp only [List.mem_cons, List.not_mem_nil, or_false] at hf
  rcases hf with rfl | rfl | rfl | rfl
  · exact isLeaf_string c.v
  · exact isLeaf_string c.nonce
  · exact isLeaf_int c.iat
  · exact isLeaf_int c.exp

theorem readClaims_written {c : Claims} (h : c.IsTimed) : readClaims c.json.bytes = .ok c := by
  have hv := takes_string "v" (fun v (c : Claims) => { c with v }) (isString_written c.v)
  have hnonce := takes_string "nonce" (fun nonce (c : Claims) => { c with nonce })
    (isString_written c.nonce)
  have hiat := takes_integer "iat" (fun iat (c : Claims) => { c with iat }) rfl h.iat
  have hexp := takes_integer "exp" (fun exp (c : Claims) => { c with exp }) rfl h.exp
  have hcollects : Collects Takes claimRules [] ⟨[], [], 0, 0⟩ c.members
      ["exp".toList, "iat".toList, "nonce".toList, "v".toList] c :=
    .field rfl (by decide) hv (.field rfl (by decide) hnonce
      (.field rfl (by decide) hiat (.field rfl (by decide) hexp .done)))
  rw [readClaims]
  refine document_object (isObject_claims c) hcollects ?_
  intro rule hrule _
  simp only [claimRules, List.mem_cons, List.not_mem_nil, or_false] at hrule
  rcases hrule with rfl | rfl | rfl | rfl <;> decide

theorem timeLeniently_numeral {v t rest : Bytes} (h : Numeral v) (hblanks : Blanks t (v ++ rest))
    (ends : EndsNumber rest) : timeLeniently t = .ok ((), rest) := by
  have hskip := (Value.scalar (.number h)).skip_eq (.refl (v ++ rest)) ends
  obtain ⟨b, more, rfl, hb⟩ := h.head
  refine value_eq_ok_iff.mpr ⟨b, more ++ rest, hblanks, (StartsScalar.number hb).plain.1, ?_⟩
  -- A number begins neither a list nor an object, so it is passed over like any value.
  split
  · rename_i heq
    cases heq
    exact absurd rfl (ne_of_numberStart hb (by decide))
  · rename_i heq
    cases heq
    exact absurd rfl (ne_of_numberStart hb (by decide))
  · exact hskip

/-- Of the claims that are written the standard knows only the expiry. -/
theorem namesAudience_written (c : Claims) : namesAudience c.json.bytes = .ok false := by
  have hexp : Takes (.may "exp" timeLeniently fun _ (s : Bool) => s) (Json.int c.exp).bytes
      fun s => s := fun _ rest hblanks ends =>
    map_eq_ok_iff.mpr ⟨((), rest), timeLeniently_numeral (numeral_int c.exp) hblanks ends, rfl⟩
  have hcollects : Collects Takes standardRules [] false c.members ["exp".toList] false :=
    .other rfl (.other rfl (.other rfl (.field rfl List.not_mem_nil hexp .done)))
  rw [namesAudience]
  refine document_object (isObject_claims c) hcollects ?_
  intro rule hrule hobject
  simp only [standardRules, List.mem_cons, List.not_mem_nil, or_false] at hrule
  rcases hrule with rfl | rfl | rfl | rfl | rfl <;> cases hobject

theorem signedClaims_sign (secret : Text) {c : Claims} (h : c.IsTimed) :
    signedClaims secret (sign secret c) .hs256 = .ok (c.json.bytes, c) := by
  have hform : readHeader issuedHeader.bytes = .ok () := by decide +kernel
  have hparts : parts? (sign secret c) = some ⟨Base64Url.encode issuedHeader.bytes,
      Base64Url.encode c.json.bytes, signature (Hmac.tag sha256) secret
        (Base64Url.encode issuedHeader.bytes ++ '.' :: Base64Url.encode c.json.bytes)⟩ :=
    parts?_join (Base64Url.dot_not_mem_encode _) (Base64Url.dot_not_mem_encode _)
  refine signedClaims_eq_ok_iff.mpr ⟨Hmac.tag sha256, _, issuedHeader.bytes, rfl, hparts,
    Base64Url.decode?_encode _, hform, ?_, Base64Url.decode?_encode _, readClaims_written h⟩
  rw [Parts.signed]

theorem declared?_sign (secret : Text) (c : Claims) :
    declared? (sign secret c) = some Algorithm.hs256.name.toList := by
  have hdeclared : declaredIn? issuedHeader.bytes = some Algorithm.hs256.name.toList := by
    decide +kernel
  rw [sign, List.append_assoc, declared?_encode (.inr rfl), hdeclared]

/-- The clock decides on a token that is signed. -/
theorem verify_sign {secret : Text} {c : Claims} (now : Int) (h : c.IsTimed) :
    verify secret (sign secret c) .hs256 now =
      if c.exp < 0 then .error (.invalid (.missingRequiredClaim "exp"))
      else if c.exp < now then .error .expired
      else .ok c :=
  verify_of_signed (declared?_sign secret c) (signedClaims_sign secret h) (namesAudience_written c)

theorem verify_sign_iff {secret : Text} {c claims : Claims} {now : Int} (h : c.IsTimed) :
    verify secret (sign secret c) .hs256 now = .ok claims ↔
      claims = c ∧ 0 ≤ c.exp ∧ now ≤ c.exp := by
  rw [verify_sign now h]
  constructor
  · intro hok
    split at hok
    · cases hok
    · split at hok
      · cases hok
      · cases hok
        exact ⟨rfl, by omega, by omega⟩
  · rintro ⟨rfl, hpositive, hnow⟩
    rw [if_neg (Int.not_lt.mpr hpositive), if_neg (Int.not_lt.mpr hnow)]

def IsSafe (c : Char) : Prop := 0x20 < c.toNat ∧ c.toNat < 0x7f ∧ c ∉ ['%', '&', '+', '=']

instance : DecidablePred IsSafe := fun c =>
  inferInstanceAs (Decidable (0x20 < c.toNat ∧ c.toNat < 0x7f ∧ c ∉ ['%', '&', '+', '=']))

theorem isSafe_of_all {t : Text} (h : (t.all fun c => decide (IsSafe c)) = true) :
    ∀ c ∈ t, IsSafe c := fun c hc => of_decide_eq_true (List.all_eq_true.mp h c hc)

theorem isSafe_digit (n : Nat) : IsSafe (Base64Url.digit n) := by
  have hdigit : ∀ i : Fin 64, IsSafe (Base64Url.digit i.val) := by decide
  by_cases h : n < 64
  · exact hdigit ⟨n, h⟩
  · rw [Base64Url.digit, if_neg (by omega), if_neg (by omega), if_neg (by omega), if_neg (by omega)]
    decide

theorem isSafe_of_mem_encode (bs : Bytes) : ∀ c ∈ Base64Url.encode bs, IsSafe c := by
  induction bs using Base64Url.encode.induct with
  | case1 => exact List.forall_mem_nil _
  | case2 a | case3 a b => simp [Base64Url.encode, isSafe_digit]
  | case4 a b c rest ih => simpa [Base64Url.encode, isSafe_digit] using ih

theorem isSafe_of_mem_sign (secret : Text) (claims : Claims) :
    ∀ c ∈ sign secret claims, IsSafe c := by
  intro c hc
  simp only [sign, signature, List.mem_append, List.mem_cons] at hc
  rcases hc with (hc | rfl | hc) | rfl | hc
  case inl.inr.inl | inr.inl => decide
  all_goals exact isSafe_of_mem_encode _ c hc

theorem sign_ne_nil (secret : Text) (claims : Claims) : sign secret claims ≠ [] :=
  List.append_ne_nil_of_right_ne_nil _ (List.cons_ne_nil _ _)

def issuedClaims (now expires : Instant) (random : BitVec 128) : Claims :=
  ⟨version, Identifier.ofBits random, now.secs, expires.secs⟩

theorem issue_eq_ok {secret : Text} {lifetime : Span} {now expires : Instant}
    (h : now.later? lifetime = some expires) (random : BitVec 128) :
    issue secret lifetime now random =
      .ok ⟨sign secret (issuedClaims now expires random), now, expires⟩ := by
  rw [issue, h]
  rfl

theorem isTimed_issuedClaims {now expires : Instant} (random : BitVec 128)
    (hnow : now.HasDate) (hexpires : expires.HasDate) :
    (issuedClaims now expires random).IsTimed := by
  -- The seconds of all dates lie far within 64 bits.
  have hfits : ∀ i : Instant, i.HasDate → FitsWord i.secs := by
    rintro i ⟨hfirst, hlast⟩
    simp only [Instant.firstSecond, Instant.lastSecond] at hfirst hlast
    exact ⟨by omega, by omega⟩
  exact ⟨hfits _ hnow, hfits _ hexpires⟩

end MediaPerimeter.Token
