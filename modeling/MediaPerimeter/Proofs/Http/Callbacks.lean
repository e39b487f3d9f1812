import MediaPerimeter.Proofs.Callback.Delivery
import MediaPerimeter.Proofs.Credential
import MediaPerimeter.Proofs.Http.Files
import MediaPerimeter.Proofs.Http.Posted

/-!
# The check and the test of a callback

What a callback URL is refused for by the check, the test delivery refuses it for in the same words.
The test can refuse more: the check reads a URL without the blanks around it, but the client that
delivers reads it with those that are not ASCII. Only there do the two differ.
-/
namespace MediaPerimeter

open Outcome

namespace Url

/-- Whatever trimming cuts off the text stands in ASCII. -/
def HasPlainEdges (raw : Text) : Prop :=
  ∃ before after, raw = before ++ (raw.trim ++ after) ∧ ∀ c ∈ before ++ after, c.toNat ≤ 0x20

theorem clean_edges {before after : Text} (h : ∀ c ∈ before ++ after, c.toNat ≤ 0x20) (t : Text) :
    clean (before ++ (t ++ after)) = clean t := by
  let isEdge : Char → Bool := fun c => decide (c.toNat ≤ 0x20)
  have hbefore : ∀ c ∈ before, isEdge c = true :=
    fun c hc => decide_eq_true (h c (List.mem_append_left _ hc))
  have hafter : ∀ c ∈ after.reverse, isEdge c = true :=
    fun c hc => decide_eq_true (h c (List.mem_append_right _ (List.mem_reverse.mp hc)))
  -- Where nothing but edges is left, both are empty.
  have hcut : (((before ++ (t ++ after)).dropWhile isEdge).reverse.dropWhile isEdge).reverse =
      ((t.dropWhile isEdge).reverse.dropWhile isEdge).reverse := by
    rw [List.dropWhile_append_of_pos hbefore, List.dropWhile_append]
    split
    · rename_i hnone
      have hempty : t.dropWhile isEdge = [] := List.isEmpty_iff.mp hnone
      have hrest : after.dropWhile isEdge = [] :=
        List.dropWhile_eq_nil_iff.mpr fun c hc => hafter c (List.mem_reverse.mpr hc)
      rw [hempty, hrest]
    · rw [List.reverse_append, List.dropWhile_append_of_pos hafter]
  unfold clean
  dsimp only
  rw [hcut]

theorem read_trim {raw : Text} (h : HasPlainEdges raw) : read raw = read raw.trim := by
  obtain ⟨before, after, hraw, hedges⟩ := h
  have hclean : clean raw = clean raw.trim := by
    conv_lhs => rw [hraw]
    exact clean_edges hedges raw.trim
  unfold read
  rw [hclean]

end Url

namespace Callback

theorem of_hostOf {raw host : Text} (h : hostOf raw = .ok host) :
    ∃ u, Url.read raw.trim = .ok u ∧ u.isWeb = true ∧ bareHost u = host ∧ host ≠ [] := by
  unfold hostOf at h
  split at h
  · cases h
  split at h
  · cases h
  rename_i u hread
  split at h
  · cases h
  rename_i hweb
  split at h
  · cases h
  rename_i hhost
  split at h
  · cases h
  cases h
  exact ⟨u, hread, by simpa using hweb, rfl, hhost⟩

/-- A URL that has a host to look up is no invalid URL to the client, if both read the same. -/
theorem readUrl_ne_invalidUrl {raw host : Text} (h : hostOf raw = .ok host)
    (hedges : Url.HasPlainEdges raw) (reason : String) :
    Net.Egress.readUrl raw ≠ .error (.invalidUrl reason) := by
  obtain ⟨u, hread, hweb, hbare, hne⟩ := of_hostOf h
  have hhost : ∃ host, u.host = some host := by
    cases hhost : u.host with
    | some host => exact ⟨host, rfl⟩
    | none =>
      rw [bareHost, hhost] at hbare
      exact absurd hbare.symm hne
  obtain ⟨host, hhost⟩ := hhost
  have hcheck : ∀ f, Net.Egress.checkUrl u = .error f → f ≠ .invalidUrl reason := by
    intro f hf
    unfold Net.Egress.checkUrl at hf
    rw [if_pos hweb, hhost] at hf
    dsimp only at hf
    split at hf
    · cases hf
      simp
    · cases hf
  unfold Net.Egress.readUrl
  rw [Url.read_trim hedges, hread]
  dsimp only
  cases hchecked : Net.Egress.checkUrl u with
  | ok v => simp
  | error f => simpa using hcheck f hchecked

end Callback

namespace Net

def Network.IsSteady (n : Network) : Prop := ∀ name i j, n.addresses name i = n.addresses name j

theorem Network.IsSteady.told_eq {n : Network} (h : n.IsSteady) (name : Text) (log log' : Log) :
    n.told log name = n.told log' name := by
  unfold Network.told
  split
  · rfl
  · exact h name _ _

theorem Network.IsSteady.check_eq {n : Network} (h : n.IsSteady) (raw : Text) (log log' : Log) :
    ((Callback.check n raw).run log).1 = ((Callback.check n raw).run log').1 := by
  unfold Callback.check
  cases Callback.hostOf raw with
  | error f => rfl
  | ok host =>
    simp only [Action.run_bind, Network.run_lookup]
    rw [h.told_eq host log log']
    rfl

end Net

/-- Only a URL that has a host passes the check. -/
theorem Callback.exists_hostOf {n : Net.Network} {raw : Text} {log after : Net.Log}
    (h : (check n raw).run log = (.ok (), after)) : ∃ host, hostOf raw = .ok host := by
  unfold check at h
  cases hhost : hostOf raw with
  | error f =>
    rw [hhost] at h
    cases h
  | ok host => exact ⟨host, rfl⟩

/-- On a steady network a delivery is rejected in the words of the check, before anything is dialed.
Or it is a call, and is refused as invalid just where the client cannot read the URL. -/
theorem Callback.rejected_or_called {n : Net.Network} (hsteady : n.IsSteady) (raw : Text) (e : Event)
    (log log' : Net.Log) :
    (∃ f after after', (check n raw).run log = (.error f, after) ∧
      (deliver n raw e).run log' = (.error (.rejected f), after') ∧
      after.dials = log.dials ∧ after'.dials = log'.dials) ∨
    (∃ host after, ∃ result : Except Net.Egress.Fault Net.Egress.Answer,
      hostOf raw = .ok host ∧ (check n raw).run log = (.ok (), after) ∧
      ((deliver n raw e).run log').1 = (result.map fun a => a.status).mapError .egress ∧
      ((∃ reason, result = .error (.invalidUrl reason)) ↔
        ∃ reason, Net.Egress.readUrl raw = .error (.invalidUrl reason))) := by
  obtain ⟨verdict, looked, hlooked, hcheck⟩ := Net.run_check n raw log
  obtain ⟨verdict', looked', hlooked', hcheck'⟩ := Net.run_check n raw log'
  -- The logs differ, but a steady network does not look at them.
  have hsame : verdict' = verdict := by
    have hverdict := hsteady.check_eq raw log' log
    rwa [hcheck, hcheck'] at hverdict
  subst hsame
  obtain ⟨hrejected, hdelivered⟩ := run_deliver hcheck' e
  cases verdict' with
  | error f =>
    refine .inl ⟨f, _, _, hcheck, hrejected f rfl, ?_, ?_⟩
    · rw [Net.Egress.dials_append, hlooked, List.append_nil]
    · rw [Net.Egress.dials_append, hlooked', List.append_nil]
  | ok v =>
    obtain ⟨host, hhost⟩ := exists_hostOf hcheck
    obtain ⟨hops, result, called, hrun⟩ := hdelivered rfl
    exact .inr ⟨host, _, result, hhost, hcheck, by rw [hrun], exists_congr called.invalidUrl_iff⟩

namespace Http

open Net (Log)

def checkPath : Text := "/terraform/v1/hooks/callback/check".toList

def testPath : Text := "/terraform/v1/hooks/callback/test".toList

/-- The same post of a URL, once to have it checked and once to have it tried. -/
structure PostsBoth (r r' : Request) (url : Text) : Prop where
  method : r.method = "POST".toList
  path : r.path = checkPath
  path' : r'.path = testPath
  same : r' = { r with target := r'.target }
  body : r.body = (Json.record [("url", .string url)]).bytes

/-- What is promised of the answers to the two: they agree on what is invalid, and a URL that passes
the check can only be forbidden or fail to answer. -/
structure Agrees (checked tested : Response) (log after log' after' : Log) : Prop where
  invalid : checked.status = 400 ↔ tested.status = 400
  same : checked.status = 400 →
    tested = checked ∧ after.dials = log.dials ∧ after'.dials = log'.dials
  passed : checked.status = 200 → tested.status ∈ [200, 403, 502, 504]

namespace Service

variable {s : Service} {now now' : Instant} {random random' : BitVec 128} {r r' : Request}
variable {url : Text} {log log' after after' : Log} {checked tested : Response}

theorem checkCaller_of_not_rejects (h : ¬ s.Rejects now r) : s.checkCaller now r = .ok () := by
  cases hcheck : s.checkCaller now r with
  | ok v => rfl
  | error f => exact absurd ⟨f, hcheck⟩ h

/-- The status of the answer to a test delivery whose check has passed. -/
theorem status_delivered {result : Except Net.Egress.Fault Net.Egress.Answer}
    {delivered : Except Callback.Delivery.Fault Nat}
    (h : delivered = (result.map fun a => a.status).mapError .egress) :
    let response := s.answer Callback.Delivery.Fault.failure
      (fun status => .ofJson 200 (.record [("status", .int status)])) delivered
    (response.status = 400 ↔ ∃ reason, result = .error (.invalidUrl reason)) ∧
      (response.status ≠ 400 → response.status ∈ [200, 403, 502, 504]) := by
  subst h
  cases result with
  | ok a =>
    refine ⟨iff_of_false ?_ nofun, fun _ => List.mem_cons_self⟩
    exact (by decide : 200 ≠ 400)
  | error f =>
    have hmeans : (∃ reason, (Except.error f : Except _ Net.Egress.Answer) =
        .error (.invalidUrl reason)) ↔ ∃ reason, f = .invalidUrl reason := by simp
    have hstatus : (f.failure.status = 400 ↔ ∃ reason, f = .invalidUrl reason) ∧
        (f.failure.status ≠ 400 → f.failure.status ∈ [200, 403, 502, 504]) := by
      cases f <;> simp [Net.Egress.Fault.failure, Failure.status]
    exact ⟨hstatus.1.trans hmeans.symm, hstatus.2⟩

/-- Either both are refused in the same words before anything is dialed, or the check passes. Then
the test is refused as invalid just where the client cannot read the URL. -/
theorem refused_or_passed (hposts : PostsBoth r r' url) (hadmits : ¬ s.Rejects now r)
    (hadmits' : ¬ s.Rejects now' r') (hsteady : s.network.IsSteady)
    (hrun : (s.handle now random r).run log = (checked, after))
    (hrun' : (s.handle now' random' r').run log' = (tested, after')) :
    (tested = checked ∧ checked.status ≠ 200 ∧ after.dials = log.dials ∧
      after'.dials = log'.dials) ∨
    (checked.status = 200 ∧ (∃ host, Callback.hostOf url = .ok host) ∧
      (tested.status = 400 ↔ ∃ reason, Net.Egress.readUrl url = .error (.invalidUrl reason)) ∧
      (tested.status ≠ 400 → tested.status ∈ [200, 403, 502, 504])) := by
  have hroute : Route.ofPath? r.path = some .callbackCheck := by
    rw [hposts.path]
    decide
  have hroute' : Route.ofPath? r'.path = some .callbackTest := by
    rw [hposts.path']
    decide
  have hpost' : r'.method = "POST".toList := by
    rw [hposts.same]
    exact hposts.method
  have hlong' : r'.isTooLong = r.isTooLong := by
    rw [hposts.same]
    rfl
  have hread' : Input.callbackUrl r' = Input.callbackUrl r := by
    rw [hposts.same]
    rfl
  -- The two requests differ in their path alone, so they are read alike.
  cases hlong : r.isTooLong with
  | true =>
    rw [run_handle_tooLong hposts.method hroute rfl hlong] at hrun
    rw [run_handle_tooLong hpost' hroute' rfl (hlong'.trans hlong)] at hrun'
    cases hrun
    cases hrun'
    exact .inl ⟨rfl, by simp [Response.plain], rfl, rfl⟩
  | false =>
    rw [run_handle_posted hposts.method hroute rfl hlong
      (.inr (checkCaller_of_not_rejects hadmits))] at hrun
    rw [run_handle_posted hpost' hroute' rfl (hlong'.trans hlong)
      (.inr (checkCaller_of_not_rejects hadmits'))] at hrun'
    simp only [perform, checkCallback, testCallback, hread'] at hrun hrun'
    cases hread : Input.callbackUrl r with
    | error f =>
      rw [hread] at hrun hrun'
      cases hrun
      cases hrun'
      exact .inl ⟨rfl, status_fail_ne_ok _, rfl, rfl⟩
    | ok raw =>
      have hstring := Json.takes_string "url" (fun t (_ : Text) => t) (Json.isString_written url)
      obtain rfl := Input.eq_of_readField rfl hstring hposts.body hread
      rw [hread] at hrun hrun'
      rcases Callback.rejected_or_called hsteady raw (.test now' random') log log' with
        ⟨f, _, _, hcheck, hdeliver, hdials, hdials'⟩ |
        ⟨host, _, result, hhost, hcheck, hdeliver, hinvalid⟩
      · simp only [Net.Action.run_bind, hcheck] at hrun
        simp only [Net.Action.run_bind, hdeliver] at hrun'
        cases hrun
        cases hrun'
        exact .inl ⟨rfl, status_fail_ne_ok _, hdials, hdials'⟩
      · simp only [Net.Action.run_bind, hcheck] at hrun
        simp only [Net.Action.run_bind] at hrun'
        obtain ⟨hstatus, hother⟩ := status_delivered (s := s) hdeliver
        cases hrun
        cases hrun'
        exact .inr ⟨rfl, ⟨host, hhost⟩, hstatus.trans hinvalid, hother⟩

/-- On a network that keeps its answers, check and test agree but for a URL that passes the check
and that the client cannot read. There is no such URL whose outer blanks are all ASCII. -/
theorem agrees_iff (hposts : PostsBoth r r' url) (hadmits : ¬ s.Rejects now r)
    (hadmits' : ¬ s.Rejects now' r') (hsteady : s.network.IsSteady)
    (hrun : (s.handle now random r).run log = (checked, after))
    (hrun' : (s.handle now' random' r').run log' = (tested, after')) :
    (Agrees checked tested log after log' after' ↔ ¬ (checked.status = 200 ∧
      ∃ reason, Net.Egress.readUrl url = .error (.invalidUrl reason))) ∧
    (Url.HasPlainEdges url → Agrees checked tested log after log' after') := by
  rcases refused_or_passed hposts hadmits hadmits' hsteady hrun hrun' with
    ⟨hsame, hstatus, hdials, hdials'⟩ | ⟨hstatus, ⟨host, hhost⟩, hinvalid, hother⟩
  · have hagrees : Agrees checked tested log after log' after' :=
      ⟨by rw [hsame], fun _ => ⟨hsame, hdials, hdials'⟩, fun h => absurd h hstatus⟩
    exact ⟨iff_of_true hagrees fun h => hstatus h.1, fun _ => hagrees⟩
  · have hvalid : checked.status ≠ 400 := by
      rw [hstatus]
      decide
    have hagrees : tested.status ≠ 400 → Agrees checked tested log after log' after' := fun h =>
      ⟨iff_of_false hvalid h, fun hchecked => absurd hchecked hvalid, fun _ => hother h⟩
    refine ⟨⟨?_, ?_⟩, fun hedges => hagrees ?_⟩
    · rintro h ⟨-, hread⟩
      exact hvalid (h.invalid.mpr (hinvalid.mpr hread))
    · intro h
      exact hagrees fun htested => h ⟨hstatus, hinvalid.mp htested⟩
    · intro htested
      obtain ⟨reason, hread⟩ := hinvalid.mp htested
      exact Callback.readUrl_ne_invalidUrl hhost hedges reason hread

def relay : Service where
  settings := { apiSecret := "secret".toList }
  environment _ := none
  files := ⟨[], []⟩
  network :=
    ⟨fun _ _ => .error "no such name", fun _ => true, fun _ => .secured,
      fun _ => .response ⟨200, none, []⟩⟩

def posted (path url : Text) : Request where
  method := "POST".toList
  target := path
  headers := [("Authorization".toList, Utf8.encode "Bearer secret".toList),
    ("Content-Type".toList, Utf8.encode "application/json".toList)]
  body := (Json.record [("url", .string url)]).bytes

theorem postsBoth_posted (url : Text) :
    PostsBoth (posted checkPath url) (posted testPath url) url where
  method := rfl
  path := by
    have hpath : (Tail.divide checkPath).path = checkPath := by decide
    exact hpath
  path' := by
    have hpath : (Tail.divide testPath).path = testPath := by decide
    exact hpath
  same := rfl
  body := rfl

theorem not_rejects_posted (path url : Text) : ¬ relay.Rejects ⟨0, 0⟩ (posted path url) := by
  have hbears : Credential.Bears (Utf8.encode "Bearer secret".toList) "secret".toList :=
    ⟨Credential.all_eq_true_iff.mp (by decide), rfl⟩
  have haccepts : Credential.Accepts "secret".toList "secret".toList 0 := ⟨by decide, .inl rfl⟩
  have hvalues : (posted path url).values "authorization" =
      [Utf8.encode "Bearer secret".toList] := rfl
  have hdecides : Credential.Decides "secret".toList (Form.single? "token" (posted path url).query)
      [Utf8.encode "Bearer secret".toList] 0 (.ok ()) := .accepted (by decide) (.borne hbears) haccepts
  rintro ⟨f, hf⟩
  rw [hvalues] at hf
  cases hf.symm.trans hdecides.authenticate_eq

theorem isSteady_relay : relay.network.IsSteady := fun _ _ _ => rfl

/-- A blank in front of the URL is cut off by both. -/
theorem agrees_iff_of_blank :
    Agrees ((relay.handle ⟨0, 0⟩ 0 (posted checkPath " http://8.8.8.8/".toList)).run []).1
      ((relay.handle ⟨0, 0⟩ 0 (posted testPath " http://8.8.8.8/".toList)).run []).1
      [] ((relay.handle ⟨0, 0⟩ 0 (posted checkPath " http://8.8.8.8/".toList)).run []).2
      [] ((relay.handle ⟨0, 0⟩ 0 (posted testPath " http://8.8.8.8/".toList)).run []).2 := by
  have hblank : ∀ c ∈ [' '] ++ [], c.toNat ≤ 0x20 := by
    intro c hc
    rw [List.mem_singleton.mp hc]
    decide
  have hedges : Url.HasPlainEdges " http://8.8.8.8/".toList := ⟨[' '], [], by decide, hblank⟩
  exact (agrees_iff (postsBoth_posted _) (not_rejects_posted _ _) (not_rejects_posted _ _)
    isSteady_relay (Prod.eta _).symm (Prod.eta _).symm).2 hedges

def indented : Text := "\u00a0http://8.8.8.8/".toList

theorem status_indented :
    ((relay.handle ⟨0, 0⟩ 0 (posted checkPath indented)).run []).1.status = 200 := by
  have hposts := postsBoth_posted indented
  have hroute : Route.ofPath? (posted checkPath indented).path = some .callbackCheck := by
    rw [hposts.path]
    decide
  have hread : Input.callbackUrl (posted checkPath indented) = .ok indented :=
    Input.readField_eq rfl (Json.takes_string "url" (fun t (_ : Text) => t)
      (Json.isString_written indented)) rfl (by decide +kernel) (by decide +kernel)
  have hhost : Callback.hostOf indented = .ok "8.8.8.8".toList := by decide +kernel
  have haddress : Address.ofText? "8.8.8.8".toList = some Callback.outside := by decide +kernel
  have hpublic : Callback.outside.check = .ok () := by decide
  have hcheck : ((Callback.check relay.network indented).run []).1 = .ok () := by
    rw [Callback.run_check_literal hhost haddress, hpublic]
    rfl
  rw [run_handle_posted rfl hroute rfl (by decide +kernel)
    (.inr (checkCaller_of_not_rejects (not_rejects_posted _ _)))]
  simp only [perform, checkCallback, hread, Net.Action.run_bind, hcheck]
  rfl

/-- The check passes a URL that the test refuses as invalid. -/
theorem exists_not_agrees : ¬ ∀ (s : Service) (now now' : Instant) (random random' : BitVec 128)
    (r r' : Request) (url : Text) (log log' : Log), PostsBoth r r' url → ¬ s.Rejects now r →
      ¬ s.Rejects now' r' → s.network.IsSteady →
      Agrees ((s.handle now random r).run log).1 ((s.handle now' random' r').run log').1
        log ((s.handle now random r).run log).2 log' ((s.handle now' random' r').run log').2 := by
  intro hagrees
  have hboth := hagrees relay ⟨0, 0⟩ ⟨0, 0⟩ 0 0 _ _ indented [] [] (postsBoth_posted indented)
    (not_rejects_posted _ _) (not_rejects_posted _ _) isSteady_relay
  have hread : ∃ reason, Net.Egress.readUrl indented = .error (.invalidUrl reason) :=
    ⟨"relative URL without a base", by decide +kernel⟩
  rcases refused_or_passed (postsBoth_posted indented) (not_rejects_posted _ _)
    (not_rejects_posted _ _) isSteady_relay (Prod.eta _).symm (Prod.eta _).symm with
    ⟨-, hstatus, -⟩ | ⟨-, -, hinvalid, -⟩
  · exact hstatus status_indented
  · have hchecked := hboth.invalid.mpr (hinvalid.mpr hread)
    rw [status_indented] at hchecked
    cases hchecked

end Service
end Http
end MediaPerimeter
