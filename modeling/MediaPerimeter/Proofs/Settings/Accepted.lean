import MediaPerimeter.Proofs.Outcome
import MediaPerimeter.Proofs.Token.Lifetime
import MediaPerimeter.Settings.Reader

/-!
# Settings that a service starts with

A service starts if its settings can be read from the environment and pass their check. From then on
the settings and the environment agree on whether this is production, and no token that is issued
lives past the last date, unless that is nearer than ten years.
-/
namespace MediaPerimeter

open Outcome

theorem Settings.validate_eq_ok_iff {s : Settings} : s.validate = .ok () ↔
    ¬ (s.isProduction = true ∧ s.apiSecret = []) ∧ 0 < s.callbackTimeoutSecs ∧
      0 < s.tokenLifetimeHours ∧ s.tokenLifetimeHours ≤ maxLifetimeHours := by
  unfold validate
  split_ifs with hsecret htimeout hpositive hmax
  · simp [hsecret]
  · simp [htimeout]
  · simp [Int.not_lt.mpr hpositive]
  · simp [Int.not_le.mpr hmax]
  · simp only [true_iff]
    exact ⟨hsecret, Nat.pos_of_ne_zero htimeout, Int.not_le.mp hpositive, Int.not_lt.mp hmax⟩

theorem Settings.lifetime_of_validate {s : Settings} (h : s.validate = .ok ()) :
    0 < s.tokenLifetimeHours ∧ s.tokenLifetimeHours ≤ maxLifetimeHours :=
  (validate_eq_ok_iff.mp h).2.2

theorem Settings.tokenLifetime?_of_validate {s : Settings} (h : s.validate = .ok ()) :
    s.tokenLifetime? = some (s.tokenLifetimeHours * 3600) := by
  obtain ⟨hpositive, hmax⟩ := lifetime_of_validate h
  have hspan : (s.tokenLifetimeHours * 3600).natAbs ≤ maxSpanSecs := by
    simp only [maxLifetimeHours, maxSpanSecs] at hmax ⊢
    omega
  exact if_pos hspan

/-- There are dates for ten years around the instant, the longest that a token may live. -/
def Instant.IsAmid (i : Instant) : Prop :=
  firstSecond ≤ i.secs - 3600 * Settings.maxLifetimeHours ∧
    i.secs + 3600 * Settings.maxLifetimeHours ≤ lastSecond

theorem Instant.IsAmid.hasDate {i : Instant} (h : i.IsAmid) : i.HasDate := by
  obtain ⟨hfirst, hlast⟩ := h
  simp only [Settings.maxLifetimeHours] at hfirst hlast
  constructor <;> omega

namespace Settings

variable {env : Environment} {s : Settings}

theorem environment_of_ofEnvironment (h : ofEnvironment env = .ok s) :
    s.environment = env.deployment?.getD "development".toList ∧
      s.password = (env "MGMT_PASSWORD".toList).filter (· != []) := by
  simp only [ofEnvironment, bind_eq_ok_iff] at h
  obtain ⟨port, -, timeout, -, lifetime, -, hs⟩ := h
  cases hs
  exact ⟨rfl, rfl⟩

/-- A deployment without a name is no production, and it is read as one with another name. -/
theorem isProduction_of_ofEnvironment (h : ofEnvironment env = .ok s) :
    s.isProduction = env.isProduction := by
  rw [isProduction, (environment_of_ofEnvironment h).1, Environment.isProduction]
  cases env.deployment? with
  | none => decide
  | some name => rfl

theorem password_of_ofEnvironment (h : ofEnvironment env = .ok s) : s.password ≠ some [] := by
  rw [(environment_of_ofEnvironment h).2]
  intro hempty
  have hsome := (Option.filter_eq_some_iff.mp hempty).2
  cases hsome

def tenYears : Int := 10 * 365 * 86400

/-- What settings have in common that a service starts with in an environment. -/
structure Consistent (env : Environment) (s : Settings) : Prop where
  production : s.isProduction = env.isProduction
  secret : env.isProduction = true → s.apiSecret ≠ []
  password : s.password ≠ some []
  timeout : 0 < s.callbackTimeoutSecs
  lifetime : s.tokenLifetime? = some (s.tokenLifetimeHours * 3600)
  positive : 0 < s.tokenLifetimeHours * 3600
  bounded : s.tokenLifetimeHours * 3600 ≤ tenYears
  /-- Tokens can be issued up to ten years before the last date. -/
  issues : ∀ (secret : Text) (now : Instant) (random : BitVec 128), now.date.InRange →
    (now.plus tenYears).date.InRange →
      ∃ issued, Token.issue secret (s.tokenLifetimeHours * 3600 : Int) now random = .ok issued ∧
        issued.Lasts now (s.tokenLifetimeHours * 3600 : Int)

/-- No accepted lifetime leads out of the ten years in front of an instant. -/
theorem hasDate_of_validate (h : s.validate = .ok ()) {now : Instant} (hnow : now.HasDate)
    (hlast : now.secs + 3600 * maxLifetimeHours ≤ Instant.lastSecond) :
    Instant.firstSecond ≤ now.secs + s.tokenLifetimeHours * 3600 ∧
      now.secs + s.tokenLifetimeHours * 3600 ≤ Instant.lastSecond := by
  obtain ⟨hpositive, hmax⟩ := lifetime_of_validate h
  obtain ⟨hfirst, -⟩ := hnow
  omega

theorem exists_issue (h : s.validate = .ok ()) (secret : Text) {now : Instant}
    (random : BitVec 128) (hnow : now.date.InRange) (hlast : (now.plus tenYears).date.InRange) :
    ∃ issued, Token.issue secret (s.tokenLifetimeHours * 3600 : Int) now random = .ok issued ∧
      issued.Lasts now (s.tokenLifetimeHours * 3600 : Int) := by
  rw [← Instant.hasDate_iff] at hnow hlast
  have hend : now.secs + 3600 * maxLifetimeHours ≤ Instant.lastSecond := by
    have hsecs := hlast.2
    simp only [Instant.plus, tenYears] at hsecs
    simp only [maxLifetimeHours]
    omega
  have hlater := Instant.later?_secs (hasDate_of_validate h hnow hend)
  obtain ⟨hrange, hnanos⟩ := Instant.later?_eq_some_iff.mp hlater
  exact ⟨_, Token.issue_eq_ok hlater random, rfl, Instant.hasDate_iff.mp hrange, hnanos⟩

/-- Settings that are read from the environment and accepted fit it, and their numbers are such that
tokens can be issued. -/
theorem consistent_of_validate (hread : ofEnvironment env = .ok s) (h : s.validate = .ok ()) :
    Consistent env s := by
  obtain ⟨hsecret, htimeout, hpositive, hmax⟩ := validate_eq_ok_iff.mp h
  have hproduction := isProduction_of_ofEnvironment hread
  constructor
  case production => exact hproduction
  case secret =>
    intro hprod hempty
    apply hsecret
    exact ⟨hproduction.trans hprod, hempty⟩
  case password => exact password_of_ofEnvironment hread
  case timeout => exact htimeout
  case lifetime => exact tokenLifetime?_of_validate h
  case positive => omega
  case bounded =>
    simp only [tenYears, maxLifetimeHours] at hmax ⊢
    omega
  case issues =>
    intro secret now random hnow hlast
    exact exists_issue h secret random hnow hlast

def strictEnvironment : Environment := fun key =>
  [("ENVIRONMENT".toList, "Prod".toList), ("API_SECRET".toList, "secret".toList),
    ("MGMT_PASSWORD".toList, []), ("CALLBACK_TIMEOUT_SECS".toList, "+1".toList),
    ("TOKEN_TTL_HOURS".toList, "87600".toList)].lookup key

/-- Ten years before the last second that has a date, a token is issued that lives up to it. -/
theorem consistent_of_validate_of_strict : ∃ s, ofEnvironment strictEnvironment = .ok s ∧
    s.isProduction = true ∧ s.password = none ∧ s.tokenLifetime? = some 315360000 ∧
    ∃ issued, Token.issue s.apiSecret (315360000 : Int) ⟨8209951516799, 0⟩ 7 = .ok issued ∧
      issued.expires = ⟨Instant.lastSecond, 0⟩ := by
  have hread : ofEnvironment strictEnvironment = .ok {
      environment := "Prod".toList
      apiSecret := "secret".toList
      callbackTimeoutSecs := 1
      tokenLifetimeHours := 87600 } := by
    decide +kernel
  have hconsistent := consistent_of_validate hread (by decide)
  have hnow : (⟨8209951516799, 0⟩ : Instant).date.InRange := Instant.hasDate_iff.mp (by decide)
  have hlast : ((⟨8209951516799, 0⟩ : Instant).plus tenYears).date.InRange :=
    Instant.hasDate_iff.mp (by decide)
  obtain ⟨issued, hissued, hlasts⟩ := hconsistent.issues "secret".toList _ 7 hnow hlast
  refine ⟨_, hread, hconsistent.production.trans (by decide), rfl, hconsistent.lifetime, issued,
    hissued, Instant.inNanos_injective (hlasts.expires.trans (by decide))⟩

end Settings
end MediaPerimeter
