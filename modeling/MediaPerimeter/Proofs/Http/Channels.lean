import MediaPerimeter.Proofs.Credential
import MediaPerimeter.Proofs.Http.Forms
import MediaPerimeter.Proofs.Http.Posted

/-!
# The secret in every channel

The secret itself can be shown in a header, in a query and in a body. The two that are read as UTF-8
take any secret. A header is only read if all of its characters are visible ASCII, so a secret with
any other is refused there, even though it may stand in a header.
-/
namespace MediaPerimeter

namespace Credential

def IsHeaderValue (value : Bytes) : Prop := ∀ b ∈ value, b = 0x09 ∨ (0x20 ≤ b ∧ b ≠ 0x7f)

def bearing (credential : Text) : Bytes := Utf8.encode (scheme ++ credential)

theorem isVisible_bearing {credential : Text} :
    IsVisible (bearing credential) ↔ IsVisible (Utf8.encode credential) := by
  rw [bearing, Utf8.encode_append, isVisible_append]
  exact and_iff_right isVisible_scheme

theorem accepts_self {secret : Text} (hset : secret ≠ []) (now : Int) :
    Accepts secret secret now := ⟨hset, .inl rfl⟩

section

variable {secret : Text} (hset : secret ≠ []) (elsewhere : Option Text) (rest : Headers) (now : Int)

include hset

theorem authenticate_bearing (hvisible : IsVisible (Utf8.encode secret)) :
    authenticate secret elsewhere (bearing secret :: rest) now = .ok () := by
  have hbears : Bears (bearing secret) secret :=
    ⟨isVisible_bearing.mpr hvisible, Utf8.encode_append scheme secret⟩
  exact (Decides.accepted hset (.borne hbears) (accepts_self hset now)).authenticate_eq

theorem authenticate_unreadable (hvisible : ¬ IsVisible (Utf8.encode secret)) :
    authenticate secret elsewhere (bearing secret :: rest) now = .error .badFormat := by
  have hsome : bearing secret ≠ [] := by
    rw [bearing, Utf8.encode_append]
    exact List.append_ne_nil_of_left_ne_nil (by decide) _
  exact (Decides.unpicked hset (.unreadable hsome (mt isVisible_bearing.mp hvisible))).authenticate_eq

end

theorem authenticate_apart {secret : Text} (hset : secret ≠ []) {headers : Headers}
    (hsilent : IsSilent headers) (now : Int) :
    authenticate secret (some secret) headers now = .ok () :=
  (Decides.accepted hset (.apart hsilent hset rfl) (accepts_self hset now)).authenticate_eq

end Credential

namespace Http

open Outcome
open Json (IsObject IsString valuesOf)

/-- A request to a protected path with a credential in its query, written as forms are, and with
nothing in a header. -/
structure AsksWith (r : Request) (credential : Text) : Prop where
  target : ∃ path ∈ protectedPaths, ∃ e, Form.Spells e (Utf8.encode credential) ∧
    r.target = path ++ "?token=".toList ++ e
  silent : Credential.IsSilent (r.values "authorization")

def tokenPath : Text := "/terraform/v1/mgmt/token".toList

/-- A post of a credential within the limits, in a body of JSON, with nothing in a header. -/
structure PostsToken (r : Request) (credential : Text) : Prop where
  method : r.method = "POST".toList
  path : r.path = tokenPath
  json : r.hasJson = true
  body : ∃ members v, IsObject r.body members ∧ valuesOf "token" members = [v] ∧
    IsString v credential
  short : r.isTooLong = false
  whole : r.body.length ≤ r.bodyLimit
  silent : Credential.IsSilent (r.values "authorization")

variable {r : Request} {credential : Text}

theorem divide_query (h : ∃ path ∈ protectedPaths, ∃ e, Form.Spells e (Utf8.encode credential) ∧
    r.target = path ++ "?token=".toList ++ e) :
    r.path ∈ protectedPaths ∧ Form.single? "token" r.query = some credential := by
  obtain ⟨path, hpath, e, hspells, htarget⟩ := h
  have hmarks : ∀ path ∈ protectedPaths, '?' ∉ path ∧ '#' ∉ path := by decide
  obtain ⟨hquestion, hhash⟩ := hmarks path hpath
  have hfragment : '#' ∉ path ++ '?' :: ("token=".toList ++ e) := by
    simp only [List.mem_append, List.mem_cons, not_or]
    exact ⟨hhash, by decide, by decide, hspells.not_mem (by decide)⟩
  have hdivide : Tail.divide r.target = ⟨path, some ("token=".toList ++ e), none⟩ := by
    rw [htarget, List.append_assoc]
    exact Tail.divide_eq_iff.mpr ⟨(List.append_nil _).symm, hquestion, hfragment⟩
  have hname : "token".toList.all Form.isPlain = true := by decide
  rw [Request.path, Request.query, hdivide]
  exact ⟨hpath, Form.single?_of_spells hname hspells⟩

/-- The token in a body is the only member with that name, or empty if there is none. -/
theorem Input.token_of_object {members : List (Text × Bytes)} (hjson : r.hasJson = true)
    (hwhole : r.body.length ≤ r.bodyLimit) (hobject : IsObject r.body members) :
    (valuesOf "token" members = [] → token r = .ok []) ∧
      ∀ v credential, valuesOf "token" members = [v] → IsString v credential →
        token r = .ok credential := by
  let rule : Json.Read.Rule Text := .usual "token" Json.Read.string fun t _ => t
  have hname : rule.name = "token".toList := rfl
  constructor
  · intro hvalues
    have htakes : Json.Takes rule (Json.string []).bytes fun _ => [] :=
      Json.takes_string "token" (fun t (_ : Text) => t) (Json.isString_written [])
    -- The field may be left out, so that nothing else has to be there.
    have hall : Json.HasAll [rule] [] := by
      intro other hother hinObject
      rw [List.mem_singleton.mp hother] at hinObject
      cases hinObject
    have hcollects := (Json.collects_of_valuesOf hname htakes members [] []).1 hvalues
    exact readField_of_document hjson hwhole (Json.document_object hobject hcollects hall)
  · intro v credential hvalues hstring
    have htakes : Json.Takes rule v fun _ => credential :=
      Json.takes_string "token" (fun t (_ : Text) => t) hstring
    exact readField_of_document hjson hwhole (document_of_object hname htakes hobject hvalues)

theorem AsksWith.divide (h : AsksWith r credential) :
    r.path ∈ protectedPaths ∧ Form.single? "token" r.query = some credential :=
  divide_query h.target

theorem PostsToken.token_eq (h : PostsToken r credential) : Input.token r = .ok credential := by
  obtain ⟨members, v, hobject, hvalues, hstring⟩ := h.body
  exact (Input.token_of_object h.json h.whole hobject).2 v credential hvalues hstring

namespace Service

variable {s : Service} {now : Instant}

def OpensByHeader (s : Service) (now : Instant) : Prop := ∀ elsewhere rest,
  Credential.authenticate s.settings.apiSecret elsewhere
    (Credential.bearing s.settings.apiSecret :: rest) now.secs = .ok ()

def OpensByQuery (s : Service) (now : Instant) : Prop := ∀ random r log,
  AsksWith r s.settings.apiSecret → ((s.handle now random r).run log).1.status ≠ 401

def OpensByBody (s : Service) (now : Instant) : Prop := ∀ random r log,
  PostsToken r s.settings.apiSecret → ((s.handle now random r).run log).1.status = 200

theorem opensByQuery (hset : s.settings.apiSecret ≠ []) (now : Instant) : s.OpensByQuery now := by
  intro random r log hasks
  obtain ⟨hpath, hquery⟩ := hasks.divide
  obtain ⟨route, hroute, hprotected⟩ := isProtected_of_mem hpath
  rw [run_handle hroute, status_finish]
  cases hlong : r.isTooLong with
  | true =>
    rw [run_respond_tooLong hlong]
    exact (by decide : 413 ≠ 401)
  | false =>
    have hcheck : s.checkCaller now r = .ok () := by
      rw [checkCaller, hquery]
      exact Credential.authenticate_apart hset hasks.silent now.secs
    rw [respond_admitted hlong hprotected hcheck]
    exact status_dispatch_ne hprotected

/-- The answer to a post of a token says only whether the token is accepted. -/
theorem run_handle_token (s : Service) (now : Instant) (hpost : r.method = "POST".toList)
    (hpath : r.path = tokenPath) (hshort : r.isTooLong = false)
    (htoken : Input.token r = .ok credential) (random : BitVec 128) (log : Net.Log) :
    (s.handle now random r).run log =
      (s.answer Credential.Fault.failure (fun _ => done) (s.authenticate (some credential) now r),
        log) := by
  have hroute : Route.ofPath? r.path = some .token := by
    rw [hpath]
    decide
  have hcheck : s.checkToken now r =
      ((s.authenticate (some credential) now r).mapError Credential.Fault.failure).map
        fun _ => done := by
    rw [checkToken, htoken]
    rfl
  rw [run_handle_posted hpost hroute rfl hshort (.inl rfl)]
  simp only [perform, hcheck]
  cases s.authenticate (some credential) now r <;> rfl

theorem opensByBody (hset : s.settings.apiSecret ≠ []) (now : Instant) : s.OpensByBody now := by
  intro random r log hposts
  have hcheck : s.authenticate (some s.settings.apiSecret) now r = .ok () :=
    Credential.authenticate_apart hset hposts.silent now.secs
  rw [run_handle_token s now hposts.method hposts.path hposts.short hposts.token_eq, hcheck]
  rfl

/-- The secret is accepted in every query and body. In a header it is accepted just if all of its
bytes are visible ASCII, blanks or tabs, and otherwise it counts as no credential at all. -/
theorem opens_iff {s : Service} (hset : s.settings.apiSecret ≠ []) (now : Instant) :
    s.OpensByQuery now ∧ s.OpensByBody now ∧
    (s.OpensByHeader now ↔ Credential.IsVisible (Utf8.encode s.settings.apiSecret)) ∧
    (¬ Credential.IsVisible (Utf8.encode s.settings.apiSecret) → ∀ elsewhere rest,
      Credential.authenticate s.settings.apiSecret elsewhere
        (Credential.bearing s.settings.apiSecret :: rest) now.secs = .error .badFormat) := by
  have hrefused : ¬ Credential.IsVisible (Utf8.encode s.settings.apiSecret) → ∀ elsewhere rest,
      Credential.authenticate s.settings.apiSecret elsewhere
        (Credential.bearing s.settings.apiSecret :: rest) now.secs = .error .badFormat :=
    fun hvisible elsewhere rest =>
      Credential.authenticate_unreadable hset elsewhere rest now.secs hvisible
  refine ⟨opensByQuery hset now, opensByBody hset now, ⟨?_, ?_⟩, hrefused⟩
  · intro hopens
    by_contra hvisible
    cases (hopens none []).symm.trans (hrefused hvisible none [])
  · exact fun hvisible elsewhere rest =>
      Credential.authenticate_bearing hset elsewhere rest now.secs hvisible

def accented : Service := { guarded with settings := { apiSecret := "é".toList } }

def asking (credential : Text) : Request where
  method := "POST".toList
  target := "/terraform/v1/ffmpeg/targets/check".toList ++ "?token=".toList ++
    Percent.encodeText Percent.isAlphanum credential
  headers := []
  body := []

theorem asksWith_asking (credential : Text) : AsksWith (asking credential) credential where
  target := by
    have hkeep : ∀ b : UInt8, Percent.isAlphanum b = true →
        b.toNat < 128 ∧ Form.isPlain (.ofNat b.toNat) = true := by
      have hall : ∀ i : Fin 256, Percent.isAlphanum (.ofNat i.val) = true →
          i.val < 128 ∧ Form.isPlain (.ofNat i.val) = true := by decide +kernel
      intro b hb
      exact hall ⟨b.toNat, UInt8.toNat_lt b⟩ (by rwa [UInt8.ofNat_toNat])
    exact ⟨_, by decide, _, Form.spells_encode hkeep _, rfl⟩
  silent := nofun

def offering (credential : Text) : Request where
  method := "POST".toList
  target := tokenPath
  headers := [("Content-Type".toList, Utf8.encode "application/json".toList)]
  body := (Json.record [("token", .string credential)]).bytes

theorem postsToken_offering {credential : Text}
    (h : (offering credential).body.length ≤ maxBody) :
    PostsToken (offering credential) credential where
  method := rfl
  path := by
    have hpath : (Tail.divide tokenPath).path = tokenPath := by decide
    exact hpath
  json := rfl
  body := by
    obtain ⟨hobject, hvalues⟩ := Json.isObject_text "token" credential
    exact ⟨_, _, hobject, hvalues, Json.isString_written credential⟩
  short := rfl
  whole := h
  silent := nofun

theorem not_isVisible_accented :
    ¬ Credential.IsVisible (Utf8.encode accented.settings.apiSecret) := by
  rw [← Credential.all_eq_true_iff]
  decide

theorem opens_iff_of_accented :
    ((accented.handle ⟨0, 0⟩ 0 (asking "é".toList)).run []).1.status ≠ 401 ∧
    ((accented.handle ⟨0, 0⟩ 0 (offering "é".toList)).run []).1.status = 200 ∧
    Credential.authenticate "é".toList none [Utf8.encode "Bearer é".toList] 0 =
      .error .badFormat := by
  have hset : accented.settings.apiSecret ≠ [] := by decide
  obtain ⟨hquery, hbody, -, hrefused⟩ := opens_iff hset ⟨0, 0⟩
  have hshort : (offering "é".toList).body.length ≤ maxBody := by decide +kernel
  exact ⟨hquery 0 _ [] (asksWith_asking _), hbody 0 _ [] (postsToken_offering hshort),
    hrefused not_isVisible_accented none []⟩

/-- The letter may stand in a header and is not read there. -/
theorem exists_not_opens : ¬ ∀ (s : Service) (now : Instant), s.settings.apiSecret ≠ [] →
    Credential.IsHeaderValue (Utf8.encode s.settings.apiSecret) →
      s.OpensByHeader now ∧ s.OpensByQuery now ∧ s.OpensByBody now := by
  intro hopens
  have hset : accented.settings.apiSecret ≠ [] := by decide
  have hlegal : Credential.IsHeaderValue (Utf8.encode accented.settings.apiSecret) := by
    have hbytes : Utf8.encode accented.settings.apiSecret = [0xc3, 0xa9] := by decide
    rw [hbytes]
    exact List.forall_mem_cons.mpr
      ⟨.inr (by decide), List.forall_mem_singleton.mpr (.inr (by decide))⟩
  obtain ⟨hheader, -⟩ := hopens accented ⟨0, 0⟩ hset hlegal
  have hrefused := Credential.authenticate_unreadable hset none [] 0 not_isVisible_accented
  cases (hheader none []).symm.trans hrefused

end Service
end Http
end MediaPerimeter
