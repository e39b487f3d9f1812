import MediaPerimeter.Proofs.Text.Base64Url
import MediaPerimeter.Proofs.Token.Forms
import MediaPerimeter.Token.Verify

/-!
# What verifying comes to

A token is verified in stages. It is valid exactly if each stage finds what it looks for: the parts,
a header of the right form, the signature of the first two parts, and claims that have not expired.
-/
namespace MediaPerimeter.Token

open Outcome

theorem parts?_eq_some_iff {token : Text} {p : Parts} :
    parts? token = some p ↔
      token = p.signed ++ '.' :: p.signature ∧ '.' ∉ p.signature ∧ '.' ∉ p.payload := by
  constructor
  · intro h
    simp only [parts?, Option.bind_eq_bind, Option.bind_eq_some_iff] at h
    obtain ⟨⟨signed, signature⟩, hlast, ⟨header, payload⟩, hmiddle, h⟩ := h
    cases h
    obtain ⟨rfl, hsignature⟩ := Text.cutLast_eq_some_iff.mp hlast
    obtain ⟨rfl, hpayload⟩ := Text.cutLast_eq_some_iff.mp hmiddle
    exact ⟨rfl, hsignature, hpayload⟩
  · rintro ⟨rfl, hsignature, hpayload⟩
    simp only [parts?, Option.bind_eq_bind, Option.bind_eq_some_iff]
    have hlast := Text.cutLast_append hsignature p.signed
    have hmiddle := Text.cutLast_append hpayload p.header
    exact ⟨_, hlast, _, hmiddle, rfl⟩

theorem parts?_join {header payload signature : Text} (hsignature : '.' ∉ signature)
    (hpayload : '.' ∉ payload) : parts? (header ++ '.' :: payload ++ '.' :: signature) =
      some ⟨header, payload, signature⟩ :=
  parts?_eq_some_iff.mpr ⟨rfl, hsignature, hpayload⟩

/-- The first part of a token decides what it declares. -/
theorem declared?_encode {header : Bytes} {more : Text}
    (hmore : more = [] ∨ more.head? = some '.') :
    declared? (Base64Url.encode header ++ more) = declaredIn? header := by
  rw [declared?, Text.takeWhile_append (Base64Url.dot_not_mem_encode header) hmore,
    Base64Url.decode?_eq_some_iff.mpr rfl]
  rfl

def keyedHashes : List (Algorithm × (Bytes → Bytes → Bytes)) :=
  [(.hs256, Hmac.tag sha256), (.hs384, Hmac.tag sha384), (.hs512, Hmac.tag sha512)]

theorem tag?_eq_some_iff {a : Algorithm} {tag : Bytes → Bytes → Bytes} :
    a.tag? = some tag ↔ (a, tag) ∈ keyedHashes := by
  cases a <;> simp [Algorithm.tag?, keyedHashes, eq_comm]

theorem decodePart_eq_ok_iff {part : Text} {bytes : Bytes} :
    decodePart part = .ok bytes ↔ Base64Url.decode? part = some bytes := by
  unfold decodePart
  cases Base64Url.decode? part <;> simp

theorem signedClaims_eq_ok_iff {secret token : Text} {a : Algorithm} {payload : Bytes}
    {claims : Claims} :
    signedClaims secret token a = .ok (payload, claims) ↔
      ∃ tag p header, a.tag? = some tag ∧ parts? token = some p ∧
        Base64Url.decode? p.header = some header ∧ readHeader header = .ok () ∧
        p.signature = signature tag secret p.signed ∧ Base64Url.decode? p.payload = some payload ∧
        readClaims payload = .ok claims := by
  constructor
  · intro h
    unfold signedClaims at h
    split at h
    case h_2 => cases h
    rename_i tag htag
    split at h
    case h_2 => cases h
    rename_i p hparts
    obtain ⟨header, hheader, h⟩ := bind_eq_ok_iff.mp h
    obtain ⟨_, hform, h⟩ := bind_eq_ok_iff.mp h
    split at h
    · cases h
    rename_i hsignature
    obtain ⟨payload', hpayload, h⟩ := bind_eq_ok_iff.mp h
    obtain ⟨claims', hclaims, h⟩ := bind_eq_ok_iff.mp h
    cases h
    exact ⟨tag, p, header, htag, hparts, decodePart_eq_ok_iff.mp hheader,
      mapError_eq_ok_iff.mp hform, not_not.mp hsignature, decodePart_eq_ok_iff.mp hpayload,
      mapError_eq_ok_iff.mp hclaims⟩
  · rintro ⟨tag, p, header, htag, hparts, hheader, hform, hsignature, hpayload, hclaims⟩
    unfold signedClaims
    rw [htag, hparts]
    dsimp only
    refine bind_eq_ok_iff.mpr ⟨header, decodePart_eq_ok_iff.mpr hheader, ?_⟩
    refine bind_eq_ok_iff.mpr ⟨(), mapError_eq_ok_iff.mpr hform, ?_⟩
    rw [if_neg (not_not.mpr hsignature)]
    refine bind_eq_ok_iff.mpr ⟨payload, decodePart_eq_ok_iff.mpr hpayload, ?_⟩
    exact bind_eq_ok_iff.mpr ⟨claims, mapError_eq_ok_iff.mpr hclaims, rfl⟩

/-- A token that declares another algorithm is refused before anything else in it is looked at. -/
theorem verify_of_declared {secret token d : Text} {expected : Algorithm} {now : Int}
    (h : declared? token = some d) (hne : d ≠ expected.name.toList) :
    verify secret token expected now = .error (.disallowedAlgorithm d) := by
  unfold verify
  rw [h]
  dsimp only
  rw [if_pos hne]
  rfl

/-- Of a token that is signed as it should be and names no audience, only the expiry and the clock
are left to decide. -/
theorem verify_of_signed {secret token : Text} {expected : Algorithm} {payload : Bytes}
    {claims : Claims} {now : Int} (hdeclared : declared? token = some expected.name.toList)
    (hsigned : signedClaims secret token expected = .ok (payload, claims))
    (haudience : namesAudience payload = .ok false) :
    verify secret token expected now =
      if claims.exp < 0 then .error (.invalid (.missingRequiredClaim "exp"))
      else if claims.exp < now then .error .expired
      else .ok claims := by
  unfold verify
  rw [hdeclared]
  dsimp only
  rw [if_neg (not_not.mpr rfl), hsigned]
  dsimp only [readPart, Except.mapError, bind, Except.bind]
  rw [haudience]
  dsimp only
  rw [if_neg Bool.false_ne_true]
  split
  · rfl
  · split <;> rfl

theorem verify_eq_ok_iff {secret token : Text} {expected : Algorithm} {now : Int}
    {claims : Claims} :
    verify secret token expected now = .ok claims ↔
      declared? token = some expected.name.toList ∧ ∃ payload,
        signedClaims secret token expected = .ok (payload, claims) ∧
        namesAudience payload = .ok false ∧ 0 ≤ claims.exp ∧ now ≤ claims.exp := by
  constructor
  · intro h
    unfold verify at h
    split at h
    case h_2 => cases h
    rename_i declared hdeclared
    dsimp only at h
    split at h
    · cases h
    rename_i hsame
    obtain ⟨⟨payload, claims'⟩, hsigned, h⟩ := bind_eq_ok_iff.mp h
    obtain ⟨audience, haudience, h⟩ := bind_eq_ok_iff.mp h
    dsimp only at h
    split at h
    · cases h
    rename_i hnegative
    split at h
    · cases h
    rename_i hexpired
    split at h
    · cases h
    rename_i hnone
    cases h
    rw [not_not.mp hsame] at hdeclared
    rw [eq_false_of_ne_true hnone] at haudience
    exact ⟨hdeclared, payload, mapError_eq_ok_iff.mp hsigned,
      mapError_eq_ok_iff.mp (mapError_eq_ok_iff.mp haudience), Int.not_lt.mp hnegative,
      Int.not_lt.mp hexpired⟩
  · rintro ⟨hdeclared, payload, hsigned, haudience, hpositive, hnow⟩
    rw [verify_of_signed hdeclared hsigned haudience, if_neg (Int.not_lt.mpr hpositive),
      if_neg (Int.not_lt.mpr hnow)]

end MediaPerimeter.Token
