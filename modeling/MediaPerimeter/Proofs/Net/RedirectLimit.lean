import Mathlib.Data.List.TakeWhile
import MediaPerimeter.Proofs.Net.Trail

/-!
# How many redirects are followed

A chain is what the other side lays out for a call: answers that each lead on to a URL of the web
whose host is public and accepts connections, and at last an answer that leads nowhere. The limit on
redirects counts the first URL of the call, so a chain of exactly as many redirects as the limit
names is cut short before its end; and the refusal is told as a failure of the request.
-/
namespace MediaPerimeter.Net.Egress

/-- After the log, the request is answered by so many redirects, one after the other, and then by
the last answer. -/
inductive Chain (n : Network) : Log → Request → Nat → List Hop → Answer → Prop
  | arrives {log r h answer} (sent : Sent n log r h (.ok answer))
      (stays : redirection? r answer = none) :
      Chain n log r 0 [h] ⟨answer.status, r.url.text, answer.body⟩
  | leads {log r h answer next u redirects hops last} (sent : Sent n log r h (.ok answer))
      (onward : redirection? r answer = some next) (reads : Url.read next = .ok u)
      (good : checkUrl u = .ok ())
      (rest : Chain n (log ++ h.events) (redirected r answer.status u) redirects hops last) :
      Chain n log r (redirects + 1) (h :: hops) last

def promised (redirects : Nat) (last : Answer) : Except Fault Answer :=
  if redirects ≤ maxRedirects then .ok last else .error (.tooManyRedirects maxRedirects)

variable {n : Network} {log : Log} {r : Request} {redirects : Nat} {hops : List Hop} {last : Answer}

theorem Sent.request_eq {h : Hop} {out : Except SendFault Response} (sent : Sent n log r h out) :
    h.request = r := by
  cases sent <;> rfl

theorem Chain.length_eq (chain : Chain n log r redirects hops last) :
    hops.length = redirects + 1 := by
  induction chain with
  | arrives => rfl
  | leads _ _ _ _ _ ih => rw [List.length_cons, ih]

/-- A chain that is not longer than what is left of the limit is followed to its end. -/
theorem Chain.run_follow_le (chain : Chain n log r redirects hops last) (first : Text) {left : Nat}
    (hle : redirects ≤ left) :
    (follow n first left r).run log = (.ok last, log ++ hops.flatMap Hop.events) := by
  induction chain generalizing left with
  | arrives sent stays =>
    rw [run_follow_answered sent.run_of_ok stays, List.flatMap_singleton]
  | @leads log r h answer next u redirects hops last sent onward reads good rest ih =>
    cases left with
    | zero => cases hle
    | succ left =>
      rw [run_follow_onward sent.run_of_ok onward (checkHop_eq reads good first r),
        ih (Nat.le_of_succ_le_succ hle), List.flatMap_cons, List.append_assoc]

/-- A longer chain is left at the answer that leads on when nothing of the limit is left. -/
theorem Chain.run_follow_lt (chain : Chain n log r redirects hops last) (first : Text) {left : Nat}
    (hlt : left < redirects) :
    ∃ h, hops[left]? = some h ∧
      (follow n first left r).run log = (.error (.request (.following h.request.url.text)),
        log ++ (hops.take (left + 1)).flatMap Hop.events) := by
  induction chain generalizing left with
  | arrives => cases hlt
  | @leads log r h answer next u redirects hops last sent onward reads good rest ih =>
    cases left with
    | zero =>
      refine ⟨h, rfl, ?_⟩
      rw [run_follow_exhausted sent.run_of_ok onward, unfollowed_eq reads, sent.request_eq,
        List.take_succ_cons, List.take_zero, List.flatMap_singleton]
    | succ left =>
      obtain ⟨k, hk, hrun⟩ := ih (Nat.lt_of_succ_lt_succ hlt)
      refine ⟨k, hk, ?_⟩
      rw [run_follow_onward sent.run_of_ok onward (checkHop_eq reads good first r), hrun,
        List.take_succ_cons, List.flatMap_cons, List.append_assoc]

section Call

variable {method : Method} {body : Option Json} {raw : Text} {u : Url}

theorem Chain.run_call_lt (chain : Chain n log (departure method u body) redirects hops last)
    (hread : readUrl raw = .ok u) (hsend : isSendable (withoutCredentials u) = true)
    (hlt : redirects < maxRedirects) :
    (call n method body raw).run log = (.ok last, log ++ hops.flatMap Hop.events) := by
  rw [run_call_sendable hread hsend]
  exact chain.run_follow_le _ (Nat.le_sub_one_of_lt hlt)

theorem Chain.run_call_le (chain : Chain n log (departure method u body) redirects hops last)
    (hread : readUrl raw = .ok u) (hsend : isSendable (withoutCredentials u) = true)
    (hle : maxRedirects ≤ redirects) :
    ∃ h, hops[maxRedirects - 1]? = some h ∧
      (call n method body raw).run log = (.error (.request (.following h.request.url.text)),
        log ++ (hops.take maxRedirects).flatMap Hop.events) := by
  rw [run_call_sendable hread hsend]
  exact chain.run_follow_lt _ hle

/-- The promise of the limit is kept for chains below the limit and for no others. A call never
makes more requests than the limit names; from the limit on, the last of them is told as the one
whose redirect could not be followed. -/
theorem eq_promised_iff (hread : readUrl raw = .ok u)
    (hsend : isSendable (withoutCredentials u) = true)
    (chain : Chain n log (departure method u body) redirects hops last) :
    ∃ result, (call n method body raw).run log =
        (result, log ++ (hops.take maxRedirects).flatMap Hop.events) ∧
      (result = promised redirects last ↔ redirects < maxRedirects) ∧
      (maxRedirects ≤ redirects → ∃ h, hops[maxRedirects - 1]? = some h ∧
        result = .error (.request (.following h.request.url.text))) := by
  by_cases hlt : redirects < maxRedirects
  · refine ⟨.ok last, ?_, ?_, fun hle => absurd hlt (Nat.not_lt.mpr hle)⟩
    · have hall : hops.take maxRedirects = hops :=
        List.take_of_length_le (chain.length_eq ▸ hlt)
      rw [hall, chain.run_call_lt hread hsend hlt]
    · exact iff_of_true (if_pos (Nat.le_of_lt hlt)).symm hlt
  · obtain ⟨h, hh, hrun⟩ := chain.run_call_le hread hsend (Nat.not_lt.mp hlt)
    refine ⟨_, hrun, iff_of_false (fun heq => ?_) hlt, fun _ => ⟨h, hh, rfl⟩⟩
    -- Neither of the two promised results is a failure of the request.
    unfold promised at heq
    split at heq <;> cases heq

end Call

def home : Text := "http://8.8.8.8/".toList

def homeUrl : Url := ⟨"http".toList, [], none, some (.v4 ⟨8, 8, 8, 8⟩), none, "/".toList, none, none⟩

def roundabout (redirects : Nat) : Network where
  addresses _ _ := .error "no such name"
  accepts _ := true
  secures _ := .secured
  reply i := .response
    (if i < redirects then ⟨302, some "/".toList, []⟩ else ⟨200, none, "done".toList⟩)

theorem readUrl_home : readUrl home = .ok homeUrl := by decide +kernel

theorem withoutCredentials_home : withoutCredentials homeUrl = homeUrl := by decide +kernel

theorem isSendable_home : isSendable (withoutCredentials homeUrl) = true := by
  rw [withoutCredentials_home]
  rfl

theorem departure_home : departure .get homeUrl none = ⟨.get, homeUrl, none⟩ := by
  rw [departure, withoutCredentials_home]
  rfl

theorem redirection_home :
    redirection? ⟨.get, homeUrl, none⟩ ⟨302, some "/".toList, []⟩ = some home := rfl

/-- A request for the page is answered as the count of earlier requests says. -/
theorem sent_roundabout (total : Nat) (log : Log) :
    ∃ h : Hop, (log ++ h.events).requests.length = log.requests.length + 1 ∧
      Sent (roundabout total) log ⟨.get, homeUrl, none⟩ h (.ok
        (if log.requests.length < total then ⟨302, some "/".toList, []⟩
          else ⟨200, none, "done".toList⟩)) := by
  have hport : homeUrl.dialPort? = some 80 := rfl
  refine ⟨_, ?_, .asked rfl hport (.literal rfl) rfl (if_neg (by decide))⟩
  rw [requests_append, requests_events, List.length_append]
  rfl

/-- However many redirects are left, they are a chain. -/
theorem chain_roundabout {total : Nat} (left : Nat) (log : Log)
    (hlog : log.requests.length + left = total) :
    ∃ hops, Chain (roundabout total) log ⟨.get, homeUrl, none⟩ left hops
      ⟨200, home, "done".toList⟩ := by
  induction left generalizing log with
  | zero =>
    obtain ⟨h, -, sent⟩ := sent_roundabout total log
    rw [if_neg (by omega)] at sent
    have htext : homeUrl.text = home := rfl
    exact ⟨[h], htext ▸ .arrives sent rfl⟩
  | succ left ih =>
    obtain ⟨h, hcount, sent⟩ := sent_roundabout total log
    rw [if_pos (by omega)] at sent
    obtain ⟨hops, chain⟩ := ih (log ++ h.events) (by omega)
    have hgood : checkUrl homeUrl = .ok () := (of_readUrl readUrl_home).2
    exact ⟨h :: hops, .leads sent redirection_home (of_readUrl readUrl_home).1 hgood chain⟩

/-- Two redirects are followed to the page behind them. -/
theorem eq_promised_of_two_redirects :
    readUrl home = .ok homeUrl ∧ isSendable (withoutCredentials homeUrl) = true ∧
      ∃ hops, Chain (roundabout 2) [] (departure .get homeUrl none) 2 hops
          ⟨200, home, "done".toList⟩ ∧
        ∃ result, (call (roundabout 2) .get none home).run [] =
            (result, [] ++ (hops.take maxRedirects).flatMap Hop.events) ∧
          (result = promised 2 ⟨200, home, "done".toList⟩ ↔ 2 < maxRedirects) ∧
          (maxRedirects ≤ 2 → ∃ h, hops[maxRedirects - 1]? = some h ∧
            result = .error (.request (.following h.request.url.text))) := by
  obtain ⟨hops, chain⟩ := chain_roundabout 2 [] (Nat.zero_add 2)
  rw [← departure_home] at chain
  exact ⟨readUrl_home, isSendable_home, hops, chain,
    eq_promised_iff readUrl_home isSendable_home chain⟩

/-- Five redirects are not followed to their end, and the limit is not named for six. -/
theorem exists_not_promised : ∃ hops₅ hops₆ : List Hop,
    Chain (roundabout 5) [] (departure .get homeUrl none) 5 hops₅ ⟨200, home, "done".toList⟩ ∧
      ((get (roundabout 5) home).run []).1 ≠ .ok ⟨200, home, "done".toList⟩ ∧
    Chain (roundabout 6) [] (departure .get homeUrl none) 6 hops₆ ⟨200, home, "done".toList⟩ ∧
      ((get (roundabout 6) home).run []).1 ≠ .error (.tooManyRedirects maxRedirects) := by
  have hrefused : ∀ total, maxRedirects ≤ total → ∃ hops h,
      Chain (roundabout total) [] (departure .get homeUrl none) total hops
        ⟨200, home, "done".toList⟩ ∧
      ((get (roundabout total) home).run []).1 = .error (.request (.following h)) := by
    intro total hle
    obtain ⟨hops, chain⟩ := chain_roundabout total [] (Nat.zero_add total)
    rw [← departure_home] at chain
    obtain ⟨h, -, hrun⟩ := chain.run_call_le readUrl_home isSendable_home hle
    exact ⟨hops, h.request.url.text, chain, by rw [get, hrun]⟩
  obtain ⟨hops₅, h₅, chain₅, hrun₅⟩ := hrefused 5 (by decide)
  obtain ⟨hops₆, h₆, chain₆, hrun₆⟩ := hrefused 6 (by decide)
  exact ⟨hops₅, hops₆, chain₅, by rw [hrun₅]; nofun, chain₆, by rw [hrun₆]; nofun⟩

end MediaPerimeter.Net.Egress
