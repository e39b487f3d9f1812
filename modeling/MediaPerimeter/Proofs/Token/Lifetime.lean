import MediaPerimeter.Proofs.Time.Years
import MediaPerimeter.Proofs.Token.Issued

/-!
# Lifetimes

A token is issued if its lifetime ends on a date. Verifying then reads its claims back, up to and
including the last second of the lifetime, and only under the algorithm that it was signed with.
-/
namespace MediaPerimeter.Token

structure Issued.Lasts (t : Issued) (now : Instant) (lifetime : Span) : Prop where
  created : t.created = now
  inRange : t.expires.date.InRange
  expires : t.expires.inNanos = now.inNanos + lifetime.inNanos

/-- The claims that the token is signed for: a name of 32 digits, and its instants in whole
seconds. -/
structure Issued.States (t : Issued) (secret : Text) (c : Claims) : Prop where
  token : t.token = sign secret c
  v : c.v = version
  length : c.nonce.length = 32
  digits : ∀ d ∈ c.nonce, Hex.isDigit d = true
  iat : c.iat = t.created.secs
  exp : c.exp = t.expires.secs

/-- What verifying makes of a token with the claims: at each second the claims or a fault, and under
another algorithm nothing. -/
structure Keeps (secret token : Text) (c : Claims) : Prop where
  valid : ∀ clock, 0 ≤ clock → clock ≤ c.exp → verify secret token .hs256 clock = .ok c
  lapsed : ∀ clock, c.exp < clock → verify secret token .hs256 clock =
    .error (if c.exp < 0 then .invalid (.missingRequiredClaim "exp") else .expired)
  pinned : ∀ a clock, a ≠ .hs256 → verify secret token a clock =
    .error (.disallowedAlgorithm Algorithm.hs256.name.toList)

theorem keeps_sign (secret : Text) {c : Claims} (h : c.IsTimed) :
    Keeps secret (sign secret c) c where
  valid clock hclock hexp := by
    have hpositive : 0 ≤ c.exp := Int.le_trans hclock hexp
    exact (verify_sign_iff h).mpr ⟨rfl, hpositive, hexp⟩
  lapsed clock hclock := by
    rw [verify_sign clock h, if_pos hclock]
    split <;> rfl
  pinned a clock ha := by
    have hname : Algorithm.hs256.name.toList ≠ a.name.toList := fun hname =>
      ha (Algorithm.name_injective hname).symm
    exact verify_of_declared (declared?_sign secret c) hname

theorem states_issuedClaims (secret : Text) (now expires : Instant) (random : BitVec 128) :
    Issued.States ⟨sign secret (issuedClaims now expires random), now, expires⟩ secret
      (issuedClaims now expires random) where
  token := rfl
  v := rfl
  length := Identifier.length_ofBits random
  digits := Identifier.isDigit_of_mem_ofBits random
  iat := rfl
  exp := rfl

theorem issue_eq_error_iff {secret : Text} {lifetime : Span} {now : Instant}
    {random : BitVec 128} {fault : Fault} :
    issue secret lifetime now random = .error fault ↔
      fault = .lifetimeOutOfRange ∧ now.later? lifetime = none := by
  rw [issue]
  split
  · rename_i hlater
    simp [hlater, eq_comm]
  · rename_i expires hlater
    simp [hlater]

/-- Issuing fails exactly if the lifetime does not end on a date. Otherwise the token states its two
instants, and verifying undoes issuing for as long as the token lasts. -/
theorem issue_verify (secret : Text) (lifetime : Span) {now : Instant}
    (hnow : now.date.InRange) (random : BitVec 128) :
    (issue secret lifetime now random = .error .lifetimeOutOfRange ↔
      ¬ ∃ j : Instant, j.date.InRange ∧ j.inNanos = now.inNanos + lifetime.inNanos) ∧
    ((∃ j : Instant, j.date.InRange ∧ j.inNanos = now.inNanos + lifetime.inNanos) →
      ∃ issued claims, issue secret lifetime now random = .ok issued ∧
        issued.Lasts now lifetime ∧ issued.States secret claims ∧
        Keeps secret issued.token claims) := by
  constructor
  · simp only [← Instant.hasDate_iff]
    rw [issue_eq_error_iff, ← Instant.later?_eq_none_iff]
    exact and_iff_right rfl
  · rintro ⟨expires, hrange, hexpires⟩
    have hdate := Instant.hasDate_iff.mpr hrange
    have hlater := Instant.later?_eq_some_iff.mpr ⟨hdate, hexpires⟩
    have htimed := isTimed_issuedClaims random (Instant.hasDate_iff.mpr hnow) hdate
    have hstates := states_issuedClaims secret now expires random
    exact ⟨_, _, issue_eq_ok hlater random, ⟨rfl, hrange, hexpires⟩, hstates,
      keeps_sign secret htimed⟩

/-- A token that is issued in the middle of a second, for a second and a half, is valid for the
whole of the second that it ends in. -/
theorem issue_verify_of_fractions : ∃ issued claims,
    issue "secret".toList ⟨1, 500000000⟩ ⟨0, 500000000⟩ 7 = .ok issued ∧
    issued.expires = ⟨2, 0⟩ ∧ claims.iat = 0 ∧ claims.exp = 2 ∧
    verify "secret".toList issued.token .hs256 2 = .ok claims ∧
    verify "secret".toList issued.token .hs256 3 = .error .expired := by
  have hends : (⟨2, 0⟩ : Instant).inNanos =
      (⟨0, 500000000⟩ : Instant).inNanos + (⟨1, 500000000⟩ : Span).inNanos := by decide
  have hrange : (⟨2, 0⟩ : Instant).date.InRange :=
    Instant.hasDate_iff.mp (by decide)
  have hnow : (⟨0, 500000000⟩ : Instant).date.InRange :=
    Instant.hasDate_iff.mp (by decide)
  obtain ⟨issued, claims, hissued, hlasts, hstates, hkeeps⟩ :=
    (issue_verify "secret".toList ⟨1, 500000000⟩ hnow 7).2 ⟨_, hrange, hends⟩
  have hexpires : issued.expires = ⟨2, 0⟩ :=
    Instant.inNanos_injective (hlasts.expires.trans hends.symm)
  have hexp : claims.exp = 2 := hstates.exp.trans (congrArg Instant.secs hexpires)
  have hiat : claims.iat = 0 := hstates.iat.trans (congrArg Instant.secs hlasts.created)
  have hvalid := hkeeps.valid 2 (by decide) (by omega)
  have hlapsed := hkeeps.lapsed 3 (by omega)
  rw [if_neg (by omega)] at hlapsed
  exact ⟨issued, claims, hissued, hexpires, hiat, hexp, hvalid, hlapsed⟩

end MediaPerimeter.Token
