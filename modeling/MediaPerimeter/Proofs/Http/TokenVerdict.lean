import MediaPerimeter.Proofs.Http.Channels

/-!
# One verdict on a token

A token can be posted to have it checked, and it can be shown in the query of a protected path. The
same headers with the same token come to the same verdict both times, and who is refused is told so
in the same words. No token at all is the empty token.
-/
namespace MediaPerimeter.Http

open Net (Log)
open Json (IsObject IsString valuesOf)

/-- The same headers, once with a token that is posted within the limits, in a body of JSON, and once
with the token in the query of a protected path. -/
structure ShowsTwice (posted asked : Request) (token : Text) : Prop where
  method : posted.method = "POST".toList
  path : posted.path = tokenPath
  json : posted.hasJson = true
  body : ∃ members v, IsObject posted.body members ∧ valuesOf "token" members = [v] ∧
    IsString v token
  short : posted.isTooLong = false
  whole : posted.body.length ≤ posted.bodyLimit
  target : ∃ path ∈ protectedPaths, ∃ e, Form.Spells e (Utf8.encode token) ∧
    asked.target = path ++ "?token=".toList ++ e
  headers : asked.headers = posted.headers

/-- A body and a target for the same two requests, without a token in either. -/
structure LacksToken (posted asked : Request) (content : Bytes) (target : Text) : Prop where
  body : ∃ members, IsObject content members ∧ valuesOf "token" members = []
  whole : content.length ≤ posted.bodyLimit
  path : Request.path { asked with target } = asked.path
  query : ∀ field ∈ Form.fields (Request.query { asked with target }), field.1 ≠ "token".toList

variable {posted asked : Request} {token target : Text} {content : Bytes}

theorem ShowsTwice.token_eq (h : ShowsTwice posted asked token) :
    Input.token posted = .ok token := by
  obtain ⟨members, v, hobject, hvalues, hstring⟩ := h.body
  exact (Input.token_of_object h.json h.whole hobject).2 v token hvalues hstring

theorem ShowsTwice.isTooLong_asked (h : ShowsTwice posted asked token) :
    asked.isTooLong = false := by
  rw [← h.short]
  unfold Request.isTooLong Request.declaredLength? Request.value? Request.values
  rw [h.headers]

theorem ShowsTwice.values_asked (h : ShowsTwice posted asked token) (name : String) :
    asked.values name = posted.values name := by
  rw [Request.values, h.headers]
  rfl

theorem LacksToken.token_eq (h : LacksToken posted asked content target)
    (hjson : posted.hasJson = true) : Input.token { posted with body := content } = .ok [] := by
  obtain ⟨members, hobject, hvalues⟩ := h.body
  exact (Input.token_of_object (r := { posted with body := content }) hjson h.whole hobject).1 hvalues

theorem LacksToken.single?_eq (h : LacksToken posted asked content target) :
    Form.single? "token" (Request.query { asked with target }) = none := by
  have hnone : (Form.fields (Request.query { asked with target })).filter
      (fun f => f.1 == "token".toList) = [] :=
    List.filter_eq_nil_iff.mpr fun field hfield => by simpa using h.query field hfield
  rw [Form.single?, hnone]

namespace Service

variable {s : Service} {now : Instant} {route : Route}

/-- Nothing of the query of a protected path counts but its token. -/
theorem handle_of_target (hpath : Request.path { asked with target } = asked.path)
    (hroute : Route.ofPath? asked.path = some route) (hprotected : route.isProtected = true)
    (hcaller : s.checkCaller now { asked with target } = s.checkCaller now asked)
    (random : BitVec 128) :
    s.handle now random { asked with target } = s.handle now random asked := by
  have hperform : s.perform now random { asked with target } route =
      s.perform now random asked route := by
    cases route with
    | health | recordSegment | helloVoice | login | token => cases hprotected
    | targetCheck | callbackCheck | callbackTest => rfl
  have hdispatch : s.dispatch now random { asked with target } (some route) =
      s.dispatch now random asked (some route) := by
    simp only [dispatch, hperform]
  have hrespond : s.respond now random { asked with target } (some route) =
      s.respond now random asked (some route) := by
    simp only [respond, hcaller, hdispatch]
    rfl
  rw [handle, handle, hpath, hroute, hrespond]
  rfl

/-- A protected path is closed to the token just where the post of it is not answered 200. Then both
are answered 401 in the same words; who does not post is also told that one has to. An empty token is
answered like none. -/
theorem handle_token_verdict (s : Service) (now : Instant) (h : ShowsTwice posted asked token)
    (random random' : BitVec 128) (log log' : Log) :
    let answer := ((s.handle now random posted).run log).1
    let answer' := ((s.handle now random' asked).run log').1
    (answer.status = 200 ↔ answer'.status ≠ 401) ∧
    (answer.status ≠ 200 → answer.status = 401 ∧
      (∃ route, Route.ofPath? asked.path = some route ∧
        answer' = finish asked (some route) answer) ∧
      (asked.method = "POST".toList → answer' = answer)) ∧
    (token = [] → ∀ content target, LacksToken posted asked content target →
      ((s.handle now random { posted with body := content }).run log).1 = answer ∧
        s.handle now random' { asked with target } = s.handle now random' asked) := by
  obtain ⟨hpath, hquery⟩ := divide_query h.target
  obtain ⟨route, hroute, hprotected⟩ := isProtected_of_mem hpath
  -- Both requests ask for the same verdict.
  have hcaller : s.checkCaller now asked = s.authenticate (some token) now posted := by
    rw [checkCaller, hquery, authenticate, h.values_asked]
    rfl
  have hposted := run_handle_token s now h.method h.path h.short h.token_eq random log
  have hnone : token = [] → ∀ content target, LacksToken posted asked content target →
      ((s.handle now random { posted with body := content }).run log).1 =
          ((s.handle now random posted).run log).1 ∧
        s.handle now random' { asked with target } = s.handle now random' asked := by
    rintro rfl content target hlacks
    constructor
    · have hbare := run_handle_token s now (r := { posted with body := content })
        h.method h.path h.short (hlacks.token_eq h.json) random log
      rw [hbare, hposted]
      rfl
    · refine handle_of_target hlacks.path hroute hprotected ?_ random'
      rw [hcaller, checkCaller, hlacks.single?_eq, authenticate, authenticate, ← h.values_asked]
      rfl
  dsimp only
  refine and_assoc.mp ⟨?_, hnone⟩
  rw [hposted, run_handle hroute]
  cases hverdict : s.authenticate (some token) now posted with
  | ok v =>
    rw [respond_admitted h.isTooLong_asked hprotected (hcaller.trans hverdict), status_finish]
    exact ⟨iff_of_true rfl (status_dispatch_ne hprotected), fun hrefused => absurd rfl hrefused⟩
  | error f =>
    rw [run_respond_refused h.isTooLong_asked hprotected (hcaller.trans hverdict), status_finish]
    refine ⟨iff_of_false (s.status_fail_ne_ok _) (not_not.mpr rfl), fun _ => ⟨rfl, ?_, ?_⟩⟩
    · exact ⟨route, hroute, rfl⟩
    · intro hpost
      have hasked : route.isAsked = false := by cases route <;> first | rfl | cases hprotected
      exact finish_posted hpost hasked _

def demanding (token : Text) : Request :=
  { asking token with headers := (offering token).headers }

theorem showsTwice_demanding {token : Text} (h : (offering token).body.length ≤ maxBody) :
    ShowsTwice (offering token) (demanding token) token := by
  have hposts := postsToken_offering h
  exact ⟨hposts.method, hposts.path, hposts.json, hposts.body, hposts.short, hposts.whole,
    (asksWith_asking token).target, rfl⟩

/-- The secret with an accent is admitted twice, and the empty token is refused twice in the same
words. -/
theorem handle_token_verdict_of_accented :
    ShowsTwice (offering "é".toList) (demanding "é".toList) "é".toList ∧
    ((accented.handle ⟨0, 0⟩ 0 (offering "é".toList)).run []).1.status = 200 ∧
    ((accented.handle ⟨0, 0⟩ 0 (demanding "é".toList)).run []).1.status ≠ 401 ∧
    ShowsTwice (offering []) (demanding []) [] ∧
    ((accented.handle ⟨0, 0⟩ 0 (offering [])).run []).1.status = 401 ∧
    ((accented.handle ⟨0, 0⟩ 0 (demanding [])).run []).1 =
      ((accented.handle ⟨0, 0⟩ 0 (offering [])).run []).1 := by
  have hshort : (offering "é".toList).body.length ≤ maxBody := by decide +kernel
  have hempty : (offering []).body.length ≤ maxBody := by decide +kernel
  have hset : accented.settings.apiSecret ≠ [] := by decide
  have hadmitted := opensByBody hset ⟨0, 0⟩ 0 _ [] (postsToken_offering hshort)
  have hshows := showsTwice_demanding hshort
  have hshowsEmpty := showsTwice_demanding hempty
  obtain ⟨hverdict, -, -⟩ := handle_token_verdict accented ⟨0, 0⟩ hshows 0 0 [] []
  obtain ⟨-, hrefused, -⟩ := handle_token_verdict accented ⟨0, 0⟩ hshowsEmpty 0 0 [] []
  have hanswer : ((accented.handle ⟨0, 0⟩ 0 (offering [])).run []).1.status ≠ 200 := by
    rw [run_handle_token accented _ hshowsEmpty.method hshowsEmpty.path hshowsEmpty.short
      hshowsEmpty.token_eq]
    exact (by decide : 401 ≠ 200)
  obtain ⟨hstatus, -, hsame⟩ := hrefused hanswer
  exact ⟨hshows, hadmitted, hverdict.mp hadmitted, hshowsEmpty, hstatus, hsame rfl⟩

end Service
end MediaPerimeter.Http
