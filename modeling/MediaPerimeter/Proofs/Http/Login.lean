import MediaPerimeter.Proofs.Credential
import MediaPerimeter.Proofs.Http.Posted
import MediaPerimeter.Proofs.Settings.Accepted

/-!
# From a login to the end of its token

Who knows the password is given a token, and the token is a credential up to the second at which it
expires, in whatever way a request shows it.
-/
namespace MediaPerimeter

open Outcome

namespace Http

open Token (Issued Claims IsSafe)

theorem byte_of_safe {t : Text} (h : ∀ c ∈ t, IsSafe c) {b : UInt8} (hb : b ∈ Utf8.encode t) :
    0x20 < b.toNat ∧ b.toNat < 0x7f ∧ b ≠ 0x25 ∧ b ≠ 0x2b := by
  obtain ⟨c, hc, hb⟩ := List.mem_flatMap.mp hb
  obtain ⟨hlo, hhi, hmarks⟩ := h c hc
  have hnat : (UInt8.ofNat c.toNat).toNat = c.toNat := toNat_byte (by omega)
  have hne : ∀ mark ∈ ['%', '&', '+', '='], (UInt8.ofNat c.toNat).toNat ≠ mark.toNat := by
    intro mark hmark heq
    rw [hnat, Char.toNat_inj] at heq
    exact hmarks (heq ▸ hmark)
  rw [Utf8.encodeChar_of_lt (by omega), List.mem_singleton] at hb
  rw [hb]
  refine ⟨by rwa [hnat], by rwa [hnat], ?_, ?_⟩
  · exact fun heq => hne '%' (by decide) (congrArg UInt8.toNat heq)
  · exact fun heq => hne '+' (by decide) (congrArg UInt8.toNat heq)

namespace Form

theorem decode_safe {t : Text} (h : ∀ c ∈ t, IsSafe c) : decode t = t := by
  have hspaces : (Utf8.encode t).map (fun b => if b = 0x2b then 0x20 else b) = Utf8.encode t := by
    refine (List.map_congr_left fun b hb => ?_).trans (List.map_id _)
    exact if_neg (byte_of_safe h hb).2.2.2
  rw [decode, hspaces, Percent.decode_of_not_mem fun b hb => (byte_of_safe h hb).2.2.1,
    Utf8.decodeLossy_encode]

theorem single?_safe {name : String} {t : Text} (hname : ∀ c ∈ name.toList, IsSafe c)
    (h : ∀ c ∈ t, IsSafe c) : single? name (name.toList ++ '=' :: t) = some t := by
  have hand : '&' ∉ name.toList ++ '=' :: t := by
    simp only [List.mem_append, List.mem_cons, not_or]
    exact ⟨fun hc => (hname _ hc).2.2 (by decide), by decide, fun hc => (h _ hc).2.2 (by decide)⟩
  -- The first `=` is the one behind the name, since a safe name has none.
  have hequals : '=' ∉ name.toList := fun hc => (hname _ hc).2.2 (by decide)
  have hfields : fields (name.toList ++ '=' :: t) = [(name.toList, t)] := by
    have hne : (name.toList ++ '=' :: t != []) = true := by simp
    rw [fields, Text.split_of_not_mem hand, List.filter_singleton, hne]
    simp only [cond_true, List.map_cons, List.map_nil, field, Text.cut_append hequals,
      decode_safe hname, decode_safe h]
  rw [single?, hfields, List.filter_singleton, beq_self_eq_true]
  rfl

end Form

/-- The ways to show a token, with the credential that is looked at where no header says anything:
in the first header, as the parameter of a query or as the field of a posted record. -/
inductive Shows (token : Text) (r : Request) : Option Text → Prop
  | header {elsewhere rest}
      (h : r.values "authorization" = Utf8.encode ("Bearer ".toList ++ token) :: rest) :
      Shows token r elsewhere
  | query (hsilent : Credential.IsSilent (r.values "authorization"))
      (h : Form.single? "token" r.query = some token) : Shows token r (Form.single? "token" r.query)
  | body (hsilent : Credential.IsSilent (r.values "authorization"))
      (h : Input.token r = .ok token) : Shows token r (some token)

theorem isVisible_bearer {token : Text} (h : ∀ c ∈ token, IsSafe c) :
    Credential.IsVisible (Utf8.encode ("Bearer ".toList ++ token)) := by
  rw [Utf8.encode_append]
  refine Credential.isVisible_append.mpr ⟨Credential.isVisible_scheme, fun b hb => ?_⟩
  obtain ⟨hlo, hhi, -⟩ := byte_of_safe h hb
  exact .inr ⟨UInt8.le_iff_toNat_le.mpr (Nat.le_of_lt hlo),
    UInt8.le_iff_toNat_le.mpr (Nat.le_of_lt_succ hhi)⟩

theorem Shows.picks {token : Text} {r : Request} {elsewhere : Option Text}
    (h : Shows token r elsewhere) (hsafe : ∀ c ∈ token, IsSafe c) (hsome : token ≠ []) :
    Credential.Picks elsewhere (r.values "authorization") (.ok token) := by
  cases h with
  | header h =>
    rw [h]
    exact .borne ⟨isVisible_bearer hsafe, Utf8.encode_append _ _⟩
  | query hsilent h => exact .apart hsilent hsome h
  | body hsilent h => exact .apart hsilent hsome rfl

theorem accepts_sign_iff {secret : Text} {claims : Claims} {now : Int} (h : claims.IsTimed) :
    Credential.Accepts secret (Token.sign secret claims) now ↔
      sha256.hash (Utf8.encode (Token.sign secret claims)) = sha256.hash (Utf8.encode secret) ∨
        (0 ≤ claims.exp ∧ now ≤ claims.exp) := by
  have hverify : (∃ found, Token.verify secret (Token.sign secret claims) .hs256 now = .ok found) ↔
      0 ≤ claims.exp ∧ now ≤ claims.exp := by
    simp only [Token.verify_sign_iff h, exists_eq_left]
  rw [Credential.Accepts, hverify]
  exact and_iff_right (Token.sign_ne_nil secret claims)

namespace Service

variable {s : Service} {r : Request} {now : Instant} {random : BitVec 128}

/-- What is promised of a token: the secret of the service signs its claims, it may stand in a query
as it is, and it is accepted up to the second of its expiry and refused after that, unless it has
the hash of the secret. Clocks begin with the year 1970, so no token expires before. -/
structure Serves (s : Service) (token : Text) (claims : Claims) : Prop where
  signed : ∃ payload,
    Token.signedClaims s.settings.apiSecret token .hs256 = .ok (payload, claims)
  plain : Form.single? "token" ("token=".toList ++ token) = some token
  admits : ∀ r elsewhere (later : Instant), Shows token r elsewhere →
    0 ≤ claims.exp → later.secs ≤ claims.exp → s.authenticate elsewhere later r = .ok ()
  refuses : ∀ r elsewhere (later : Instant), Shows token r elsewhere → claims.exp < later.secs →
    sha256.hash (Utf8.encode token) ≠ sha256.hash (Utf8.encode s.settings.apiSecret) →
    s.authenticate elsewhere later r = .error .invalidToken

theorem serves_sign (hsecret : s.settings.apiSecret ≠ []) {claims : Claims} (h : claims.IsTimed) :
    s.Serves (Token.sign s.settings.apiSecret claims) claims := by
  have hsafe := Token.isSafe_of_mem_sign s.settings.apiSecret claims
  have hsome := Token.sign_ne_nil s.settings.apiSecret claims
  constructor
  case signed => exact ⟨_, Token.signedClaims_sign _ h⟩
  case plain =>
    have hname : ∀ c ∈ "token".toList, IsSafe c := Token.isSafe_of_all (by decide)
    exact Form.single?_safe hname hsafe
  case admits =>
    intro r elsewhere later hshows hclock hexp
    have haccepts : Credential.Accepts s.settings.apiSecret
        (Token.sign s.settings.apiSecret claims) later.secs :=
      (accepts_sign_iff h).mpr (.inr ⟨hclock, hexp⟩)
    exact (Credential.Decides.accepted hsecret (hshows.picks hsafe hsome) haccepts).authenticate_eq
  case refuses =>
    intro r elsewhere later hshows hexp hhash
    refine (Credential.Decides.refused hsecret (hshows.picks hsafe hsome) ?_).authenticate_eq
    rw [accepts_sign_iff h]
    rintro (hsame | ⟨-, hnow⟩)
    · exact hhash hsame
    · exact absurd hexp (Int.not_lt.mpr hnow)

def loginPath : Text := "/terraform/v1/mgmt/login".toList

structure LogsIn (r : Request) (password : Text) : Prop where
  method : r.method = "POST".toList
  path : r.path = loginPath
  short : r.isTooLong = false
  body : Input.password r = .ok password

theorem run_handle_login {q : Text} (h : LogsIn r q) (now : Instant) (random : BitVec 128)
    (log : Net.Log) :
    (s.handle now random r).run log = (s.answer id Response.ofToken (s.logIn now random q), log) := by
  have hroute : Route.ofPath? r.path = some .login := by
    rw [h.path]
    decide
  have hlogin : s.login now random r = (s.logIn now random q).map Response.ofToken := by
    rw [login, h.body]
    rfl
  rw [run_handle_posted h.method hroute rfl h.short (.inl rfl)]
  simp only [perform, hlogin]
  cases s.logIn now random q <;> rfl

theorem logIn_of_ne {p q : Text} (hpassword : s.settings.password = some p)
    (h : sha256.hash (Utf8.encode q) ≠ sha256.hash (Utf8.encode p)) :
    s.logIn now random q = .error (.unauthorized "invalid password") := by
  have hsame : Credential.sameText q p = false := beq_eq_false_iff_ne.mpr h
  rw [logIn, hpassword]
  dsimp only
  rw [hsame]
  rfl

theorem logIn_of_eq {p q : Text} (hvalid : s.settings.validate = .ok ())
    (hsecret : s.settings.apiSecret ≠ []) (hpassword : s.settings.password = some p)
    (hdate : now.IsAmid) (h : sha256.hash (Utf8.encode q) = sha256.hash (Utf8.encode p))
    (random : BitVec 128) : ∃ expires, (Token.issuedClaims now expires random).IsTimed ∧
      expires.secs - now.secs = 3600 * s.settings.tokenLifetimeHours ∧
      s.logIn now random q = .ok ⟨Token.sign s.settings.apiSecret
        (Token.issuedClaims now expires random), now, expires⟩ := by
  have hsame : Credential.sameText q p = true := beq_iff_eq.mpr h
  have hnow := hdate.hasDate
  have hexpires := Settings.hasDate_of_validate hvalid hnow hdate.2
  have hlater := Instant.later?_secs hexpires
  refine ⟨⟨now.secs + s.settings.tokenLifetimeHours * 3600, now.nanos⟩,
    Token.isTimed_issuedClaims random hnow hexpires, by dsimp only; omega, ?_⟩
  rw [logIn, hpassword]
  dsimp only
  rw [hsame, Settings.tokenLifetime?_of_validate hvalid, if_neg (by decide), if_neg hsecret]
  dsimp only
  rw [Token.issue_eq_ok hlater]
  rfl

/-- With a configuration that is accepted, a login is answered 200 exactly if the password has the
right hash, and 401 otherwise. The token in the answer lives for as long as was configured. -/
theorem handle_login {log after : Net.Log} {response : Response} {p q : Text}
    (hvalid : s.settings.validate = .ok ()) (hsecret : s.settings.apiSecret ≠ [])
    (hpassword : s.settings.password = some p) (hdate : now.IsAmid) (hlogs : LogsIn r q)
    (hrun : (s.handle now random r).run log = (response, after)) :
    (response.status = 200 ↔ sha256.hash (Utf8.encode q) = sha256.hash (Utf8.encode p)) ∧
    (response.status = 200 → ∃ (issued : Issued) (claims : Claims), response = .ofToken issued ∧
      claims.iat = now.secs ∧
      claims.exp - claims.iat = 3600 * s.settings.tokenLifetimeHours ∧
      s.Serves issued.token claims) ∧
    (response.status ≠ 200 →
      response = s.fail (.unauthorized "invalid password") ∧ response.status = 401) := by
  rw [run_handle_login hlogs] at hrun
  by_cases hsame : sha256.hash (Utf8.encode q) = sha256.hash (Utf8.encode p)
  · obtain ⟨expires, htimed, hlifetime, hissued⟩ :=
      logIn_of_eq hvalid hsecret hpassword hdate hsame random
    rw [hissued] at hrun
    cases hrun
    exact ⟨iff_of_true rfl hsame,
      fun _ => ⟨_, _, rfl, rfl, hlifetime, serves_sign hsecret htimed⟩, fun h => absurd rfl h⟩
  · rw [logIn_of_ne hpassword hsame] at hrun
    cases hrun
    have hstatus := s.status_fail_ne_ok (.unauthorized "invalid password")
    exact ⟨iff_of_false hstatus hsame, fun h => absurd h hstatus, fun _ => ⟨rfl, rfl⟩⟩

def office : Service :=
  { guarded with settings := { apiSecret := "secret".toList, password := some "open".toList } }

def attempt (password : Text) : Request where
  method := "POST".toList
  target := loginPath
  headers := [("Content-Type".toList, Utf8.encode "application/json".toList)]
  body := (Json.record [("password", .string password)]).bytes

theorem logsIn_attempt {password : Text} (h : (attempt password).body.length ≤ maxBody) :
    LogsIn (attempt password) password where
  method := rfl
  path := by
    have hpath : (Tail.divide loginPath).path = loginPath := by decide
    exact hpath
  short := rfl
  body := Input.readField_eq rfl (Json.takes_string "password" (fun t (_ : Text) => t)
    (Json.isString_written password)) rfl rfl h

/-- A token that was issued at the beginning of 1970 is still accepted at the beginning of 1971. -/
theorem handle_login_of_open :
    ((office.handle ⟨0, 0⟩ 0 (attempt "open sesame".toList)).run []).1.status = 401 ∧
    ∃ issued : Issued,
      ((office.handle ⟨0, 0⟩ 0 (attempt "open".toList)).run []).1 = .ofToken issued ∧
      office.authenticate none ⟨31536000, 0⟩ { attempt [] with headers := [("Authorization".toList,
        Utf8.encode ("Bearer ".toList ++ issued.token))] } = .ok () := by
  have hdate : Instant.IsAmid ⟨0, 0⟩ := by
    unfold Instant.IsAmid
    decide
  have hsecret : office.settings.apiSecret ≠ [] := by decide
  constructor
  · have hshort : (attempt "open sesame".toList).body.length ≤ maxBody := by decide +kernel
    have hne : sha256.hash (Utf8.encode "open sesame".toList) ≠
        sha256.hash (Utf8.encode "open".toList) := by decide +kernel
    obtain ⟨hstatus, -, hrefused⟩ :=
      handle_login rfl hsecret rfl hdate (logsIn_attempt hshort) (Prod.eta _).symm
    exact (hrefused fun h => hne (hstatus.mp h)).2
  · have hshort : (attempt "open".toList).body.length ≤ maxBody := by decide +kernel
    obtain ⟨hstatus, hissued, -⟩ :=
      handle_login rfl hsecret rfl hdate (logsIn_attempt hshort) (Prod.eta _).symm
    obtain ⟨issued, claims, hresponse, hiat, hlifetime, hserves⟩ := hissued (hstatus.mpr rfl)
    have hexp : claims.exp = 31536000 := by
      have hhours : office.settings.tokenLifetimeHours = 8760 := rfl
      rw [hiat, hhours] at hlifetime
      dsimp only at hlifetime
      omega
    refine ⟨issued, hresponse, hserves.admits _ _ _ (.header rfl) ?_ (Int.le_of_eq hexp.symm)⟩
    rw [hexp]
    decide

end Service
end Http
end MediaPerimeter
