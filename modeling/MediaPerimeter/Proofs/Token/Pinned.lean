import MediaPerimeter.Proofs.Token.Issued

/-!
# The algorithm is pinned

An accepted token has exactly three parts, and each is the only text for what it holds: the header
and the payload for the bytes that are read, the signature for the keyed hash of the other two under
the expected algorithm. A token that declares any other algorithm is refused with what it declares.
-/
namespace MediaPerimeter.Token

open Json Outcome

/-- What an accepted token is made of. -/
structure IsSigned (secret token : Text) (expected : Algorithm) (claims : Claims)
    (header payload : Bytes) (tag : Bytes → Bytes → Bytes) : Prop where
  algorithm : (expected, tag) ∈ keyedHashes
  declared : IsHeader header expected.name.toList
  presents : Presents payload claims
  parts : token.split '.' = [Base64Url.encode header, Base64Url.encode payload,
    signature tag secret (Base64Url.encode header ++ '.' :: Base64Url.encode payload)]

theorem exists_isSigned {secret token : Text} {expected : Algorithm} {now : Int} {claims : Claims}
    (h : verify secret token expected now = .ok claims) :
    now ≤ claims.exp ∧ ∃ header payload tag,
      IsSigned secret token expected claims header payload tag := by
  obtain ⟨hdeclared, payload, hsigned, haudience, -, hnow⟩ := verify_eq_ok_iff.mp h
  obtain ⟨tag, p, header, htag, hparts, hheader, hform, hsignature, hpayload, hclaims⟩ :=
    signedClaims_eq_ok_iff.mp hsigned
  obtain ⟨htoken, hdot, -⟩ := parts?_eq_some_iff.mp hparts
  have hheader := Base64Url.decode?_eq_some_iff.mp hheader
  have hpayload := Base64Url.decode?_eq_some_iff.mp hpayload
  rw [Parts.signed, hheader, hpayload] at htoken hsignature
  rw [hsignature] at htoken hdot
  refine ⟨hnow, header, payload, tag, tag?_eq_some_iff.mp htag, ?_, ?_, ?_⟩
  · rw [htoken, List.append_assoc, declared?_encode (.inr rfl)] at hdeclared
    exact isHeader_of_readings hdeclared hform
  · exact presents_of_readings hclaims haudience
  · rw [htoken, Text.split_append, Text.split_append,
      Text.split_of_not_mem (Base64Url.dot_not_mem_encode header),
      Text.split_of_not_mem (Base64Url.dot_not_mem_encode payload), Text.split_of_not_mem hdot]
    rfl

/-- The header decides the algorithm. -/
theorem algorithm_unique {header : Bytes} {a a' : Algorithm} {tag tag' : Bytes → Bytes → Bytes}
    (h : IsHeader header a.name.toList) (h' : IsHeader header a'.name.toList)
    (htag : (a, tag) ∈ keyedHashes) (htag' : (a', tag') ∈ keyedHashes) : tag = tag' := by
  have hname : a.name.toList = a'.name.toList :=
    Option.some.inj (h.declaredIn?_eq.symm.trans h'.declaredIn?_eq)
  obtain rfl := Algorithm.name_injective hname
  exact Option.some.inj ((tag?_eq_some_iff.mpr htag).symm.trans (tag?_eq_some_iff.mpr htag'))

/-- Only one signature is accepted behind a header and a payload, whatever algorithm is expected. -/
theorem signature_unique {secret h p s s' : Text} {a a' : Algorithm} {now now' : Int}
    {claims claims' : Claims}
    (hs : verify secret (h ++ '.' :: (p ++ '.' :: s)) a now = .ok claims)
    (hs' : verify secret (h ++ '.' :: (p ++ '.' :: s')) a' now' = .ok claims') : s = s' := by
  obtain ⟨-, header, payload, tag, hsigned⟩ := exists_isSigned hs
  obtain ⟨-, header', payload', tag', hsigned'⟩ := exists_isSigned hs'
  obtain ⟨rfl, rfl, rfl⟩ := Text.eq_of_split_three hsigned.parts
  obtain ⟨hheader, hpayload, hsignature⟩ := Text.eq_of_split_three hsigned'.parts
  have hsame : header = header' := by
    have hdecode := Base64Url.decode?_eq_some_iff.mpr hheader
    rw [Base64Url.decode?_encode] at hdecode
    exact Option.some.inj hdecode
  rw [hsignature, ← hheader, ← hpayload, algorithm_unique hsigned.declared
    (hsame ▸ hsigned'.declared) hsigned.algorithm hsigned'.algorithm]

theorem verify_of_declares {secret : Text} {expected : Algorithm} {now : Int} {header : Bytes}
    {d more : Text} (h : Declares header d) (hne : d ≠ expected.name.toList)
    (hmore : more = [] ∨ more.head? = some '.') :
    verify secret (Base64Url.encode header ++ more) expected now =
      .error (.disallowedAlgorithm d) := by
  have hdeclared := (declared?_encode hmore).trans (declaredIn?_eq_some_iff.mpr h)
  exact verify_of_declared hdeclared hne

/-- Accepted is only what is authentic under the expected algorithm, in one way of writing; what
declares any other algorithm is refused with that. -/
theorem verify_pinned (secret : Text) (expected : Algorithm) (now : Int) :
    (∀ token claims, verify secret token expected now = .ok claims →
      now ≤ claims.exp ∧ ∃ header payload tag,
        IsSigned secret token expected claims header payload tag) ∧
    (∀ h p s s' expected' now' claims claims',
      verify secret (h ++ '.' :: (p ++ '.' :: s)) expected now = .ok claims →
      verify secret (h ++ '.' :: (p ++ '.' :: s')) expected' now' = .ok claims' → s = s') ∧
    ∀ header d more, Declares header d → d ≠ expected.name.toList →
      (more = [] ∨ more.head? = some '.') →
      verify secret (Base64Url.encode header ++ more) expected now =
        .error (.disallowedAlgorithm d) :=
  ⟨fun _ _ h => exists_isSigned h, fun _ _ _ _ _ _ _ _ hs hs' => signature_unique hs hs',
    fun _ _ _ h hne hmore => verify_of_declares h hne hmore⟩

def hourlong : Claims := ⟨version, "n".toList, 0, 3600⟩

theorem verify_hourlong : verify "secret".toList (sign "secret".toList hourlong) .hs256 0 =
    .ok hourlong := by
  have htimed : hourlong.IsTimed := ⟨by decide, by decide⟩
  exact (verify_sign_iff htimed).mpr ⟨rfl, by decide, by decide⟩

theorem verify_pinned_of_hourlong :
    (∃ header payload tag, IsSigned "secret".toList (sign "secret".toList hourlong) .hs256 hourlong
      header payload tag) ∧
    (∀ s, verify "secret".toList (Base64Url.encode issuedHeader.bytes ++ '.' ::
      (Base64Url.encode hourlong.json.bytes ++ '.' :: s)) .hs256 0 = .ok hourlong →
      sign "secret".toList hourlong = Base64Url.encode issuedHeader.bytes ++ '.' ::
        (Base64Url.encode hourlong.json.bytes ++ '.' :: s)) ∧
    verify "secret".toList (Base64Url.encode (Json.record [("alg", .ofString "none")]).bytes ++
      ".e30.".toList) .hs256 0 = .error (.disallowedAlgorithm "none".toList) := by
  obtain ⟨haccepted, hunique, hrefused⟩ := verify_pinned "secret".toList .hs256 0
  refine ⟨(haccepted _ _ verify_hourlong).2, fun s hs => ?_, ?_⟩
  · have hwritten := verify_hourlong
    rw [sign, List.append_assoc, List.cons_append] at hwritten ⊢
    rw [hunique _ _ _ _ _ _ _ _ hwritten hs]
  · have hdeclared : declaredIn? (Json.record [("alg", .ofString "none")]).bytes =
        some "none".toList := by decide +kernel
    exact hrefused _ _ _ (declaredIn?_eq_some_iff.mp hdeclared) (by decide) (.inr rfl)

end MediaPerimeter.Token
