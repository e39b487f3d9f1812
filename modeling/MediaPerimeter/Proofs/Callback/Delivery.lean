import MediaPerimeter.Proofs.Callback.Verdict
import MediaPerimeter.Proofs.Net.Exchanges
import MediaPerimeter.Proofs.Net.PublicDials
import MediaPerimeter.Proofs.Outcome

/-!
# One delivery, one post

An event is posted after its URL has passed the check, and only then. Beyond that one post, whatever
is sent was asked for by a redirect; nothing is tried again because it failed.
-/
namespace MediaPerimeter.Callback

open Net (Action Exchange Log Network)
open Net.Egress (Called Dialogue Hop Leads departure redirection? withoutCredentials)

/-- The exchanges of a delivery and its result. -/
structure Posts (raw : Text) (e : Event) (xs : List Exchange) (result : Except Delivery.Fault Nat) :
    Prop where
  /-- The first request posts the event to the URL. -/
  first : ∀ x ∈ xs.head?, ∃ u, Url.read raw = .ok u ∧
    x.request = ⟨.post, { withoutCredentials u with fragment := none }, some e.json⟩
  /-- Every other request goes to where the answer to the one before it redirects. -/
  led : xs.IsChain fun x y => Leads x y.request
  /-- Nothing is sent after a request that has no answer, or one that is no redirect. -/
  redirected : ∀ x ∈ xs.dropLast, x.isRedirected = true
  count : xs.length ≤ 1 + xs.countP Exchange.isRedirected
  /-- The status is that of the last answer, which redirects nowhere. -/
  status : ∀ s, result = .ok s ↔ ∃ x answer, xs.getLast? = some x ∧ x.reply = .response answer ∧
    redirection? x.request answer = none ∧ s = answer.status

variable {n : Network} {raw : Text} {log after : Log} {e : Event}

/-- The check dials nothing and sends nothing. -/
theorem eq_of_run_check {verdict : Except Fault Unit}
    (hcheck : (check n raw).run log = (verdict, after)) :
    after.dials = log.dials ∧ after.requests = log.requests := by
  unfold check at hcheck
  cases hhost : hostOf raw with
  | error f =>
    rw [hhost] at hcheck
    cases hcheck
    exact ⟨rfl, rfl⟩
  | ok host =>
    simp only [hhost, Action.run_bind, Network.run_lookup] at hcheck
    cases hcheck
    constructor
    · rw [Net.Egress.dials_append, Net.Egress.dials_lookedUp, List.append_nil]
    · rw [Net.Egress.requests_append, Net.Egress.requests_lookedUp, List.append_nil]

/-- A delivery that passes its check does what the post does, and has the status of its answer. -/
theorem run_deliver_passed {mid : Log} (hcheck : (check n raw).run log = (.ok (), mid)) (e : Event) :
    (deliver n raw e).run log =
      ((((Net.Egress.post n raw e.json).run mid).1.map fun a => a.status).mapError .egress,
        ((Net.Egress.post n raw e.json).run mid).2) := by
  rw [deliver, Action.run_bind, hcheck]
  simp only [Action.run_bind]
  cases ((Net.Egress.post n raw e.json).run mid).1 <;> rfl

/-- A delivery is rejected by its check or is a call with the text of the URL as it came. -/
theorem run_deliver {verdict : Except Fault Unit}
    (hcheck : (check n raw).run log = (verdict, after)) (e : Event) :
    (∀ f, verdict = .error f → (deliver n raw e).run log = (.error (.rejected f), after)) ∧
    (verdict = .ok () → ∃ hops result, Called n after .post (some e.json) raw hops result ∧
      (deliver n raw e).run log = ((result.map fun a => a.status).mapError .egress,
        after ++ hops.flatMap Hop.events)) := by
  constructor
  · rintro f rfl
    rw [deliver, Action.run_bind, hcheck]
    rfl
  · rintro rfl
    obtain ⟨hops, result, called, hrun⟩ := Net.Egress.run_call n .post (some e.json) raw after
    refine ⟨hops, result, called, ?_⟩
    rw [run_deliver_passed hcheck, Net.Egress.post, hrun]

theorem Posts.silent (raw : Text) (e : Event) (f : Net.Egress.Fault) :
    Posts raw e [] (.error (.egress f)) where
  first x hx := by cases hx
  led := .nil
  redirected := by simp
  count := Nat.zero_le _
  status s := by simp

/-- A post to a URL that is read is a dialogue from there on. -/
theorem posts_of_dialogue {u : Url} (hread : Url.read raw = .ok u) {xs : List Exchange}
    {result : Except Net.Egress.Fault Net.Egress.Answer}
    (dialogue : Dialogue (departure .post u (some e.json)) xs result) :
    Posts raw e xs ((result.map fun a => a.status).mapError .egress) where
  first x hx := ⟨u, hread, dialogue.opens x hx⟩
  led := dialogue.led
  redirected := Net.Egress.isRedirected_of_led dialogue.led
  count := Net.Egress.length_le_of_led dialogue.led
  status s := Outcome.mapError_eq_ok_iff.trans (dialogue.status s)

theorem posts_of_called {hops : List Hop} {result : Except Net.Egress.Fault Net.Egress.Answer}
    (called : Called n log .post (some e.json) raw hops result) :
    Posts raw e (n.exchanges log.requests.length (Log.requests (hops.flatMap Hop.events)))
      ((result.map fun a => a.status).mapError .egress) := by
  cases called with
  | unread | unsendable => exact .silent raw e _
  | departed good sendable trail =>
    exact posts_of_dialogue (Net.Egress.of_readUrl good).1 trail.dialogue

/-- A delivery that is refused by the check touches nothing but the resolver. Any other posts the
event at most once of its own accord, whatever the network makes of it. -/
theorem deliver_posts_once (n : Network) (raw : Text) (e : Event) (log : Log)
    {verdict : Except Fault Unit} {after : Log}
    (hcheck : (check n raw).run log = (verdict, after)) :
    after.dials = log.dials ∧ after.requests = log.requests ∧
    (∀ f, verdict = .error f → (deliver n raw e).run log = (.error (.rejected f), after)) ∧
    (verdict = .ok () → ∃ result new, (deliver n raw e).run log = (result, after ++ new) ∧
      Posts raw e (n.exchanges log.requests.length new.requests) result) := by
  obtain ⟨hdials, hrequests⟩ := eq_of_run_check hcheck
  obtain ⟨hrejected, hdelivered⟩ := run_deliver hcheck e
  refine ⟨hdials, hrequests, hrejected, fun hok => ?_⟩
  obtain ⟨hops, result, called, hrun⟩ := hdelivered hok
  exact ⟨_, _, hrun, hrequests ▸ posts_of_called called⟩

def moved : Network where
  addresses _ _ := .error "no such name"
  accepts _ := true
  secures _ := .secured
  reply i := .response (if i = 0 then ⟨307, some "/new".toList, []⟩ else ⟨204, none, []⟩)

def hook : Text := "http://8.8.8.8/hook".toList

def insideHook : Text := "http://10.0.0.1/hook".toList

def receiver (path : Text) : Url :=
  ⟨"http".toList, [], none, some (.v4 ⟨8, 8, 8, 8⟩), none, path, none, none⟩

def posting (e : Event) (path : Text) : Net.Request := ⟨.post, receiver path, some e.json⟩

theorem run_check_hook : (check moved hook).run [] = (.ok (), []) :=
  run_check_literal (by decide +kernel : hostOf hook = .ok "8.8.8.8".toList)
    (by decide +kernel : Address.ofText? "8.8.8.8".toList = some outside) moved []

theorem run_check_insideHook : (check moved insideHook).run [] =
    (.error (.unsafeDestination ⟨.privateNet, "10.0.0.1".toList⟩), []) :=
  run_check_literal (by decide +kernel : hostOf insideHook = .ok "10.0.0.1".toList)
    (by decide +kernel : Address.ofText? "10.0.0.1".toList = some inside) moved []

theorem sent_posting (e : Event) (path : Text) (log : Log) : ∃ h, Net.Egress.Sent moved log
    (posting e path) h (Net.Egress.outcome (moved.reply log.requests.length)) := by
  have hplain : "http".toList ≠ "https".toList := by decide
  have hport : (posting e path).url.dialPort? = some 80 := rfl
  exact ⟨_, .asked rfl hport (.literal rfl) rfl (if_neg hplain)⟩

/-- The redirect leads to the second path, whatever is posted. -/
theorem leads_posting (e : Event) (first : Text) :
    redirection? (posting e "/hook".toList) ⟨307, some "/new".toList, []⟩ =
        some "http://8.8.8.8/new".toList ∧
      Net.Egress.checkHop first (posting e "/hook".toList) "http://8.8.8.8/new".toList =
        .ok (receiver "/new".toList) := by
  have hread : Url.read "http://8.8.8.8/new".toList = .ok (receiver "/new".toList) := by
    decide +kernel
  have hcheck : Net.Egress.checkUrl (receiver "/new".toList) = .ok () := by decide +kernel
  exact ⟨rfl, Net.Egress.checkHop_eq hread hcheck _ _⟩

/-- The receiver takes the event at the second path. -/
theorem run_deliver_moved (e : Event) : ∃ done, (deliver moved hook e).run [] = (.ok 204, done) ∧
    done.requests = [posting e "/hook".toList, posting e "/new".toList] := by
  let u : Url := receiver "/hook".toList
  have hread : Net.Egress.readUrl hook = .ok u := by decide +kernel
  have hplain : withoutCredentials u = u := by decide +kernel
  have hsendable : Net.Egress.isSendable (withoutCredentials u) = true := by
    rw [hplain]
    rfl
  have hdeparture : departure .post u (some e.json) = posting e "/hook".toList := by
    rw [departure, hplain]
    rfl
  obtain ⟨hleads, hcheck⟩ := leads_posting e (withoutCredentials u).text
  obtain ⟨h, sent⟩ := sent_posting e "/hook".toList []
  have hone : Log.requests ([] ++ h.events) = [posting e "/hook".toList] := sent.requests_of_ok.1
  obtain ⟨h', sent'⟩ := sent_posting e "/new".toList ([] ++ h.events)
  rw [hone] at sent'
  have hpost : (Net.Egress.post moved hook e.json).run [] =
      (.ok ⟨204, (receiver "/new".toList).text, []⟩, [] ++ h.events ++ h'.events) := by
    rw [Net.Egress.post, Net.Egress.run_call_sendable hread hsendable, hdeparture]
    have hmoved := Net.Egress.run_follow_onward sent.run_of_ok hleads hcheck
    exact (hmoved 3).trans (Net.Egress.run_follow_answered sent'.run_of_ok rfl _ 3)
  refine ⟨[] ++ h.events ++ h'.events, ?_, ?_⟩
  · rw [run_deliver_passed run_check_hook, hpost]
    rfl
  · rw [Net.Egress.requests_append, hone, sent'.requests_of_ok.1]
    rfl

/-- Outside an event is posted and posted again where the redirect leads. Nothing at all is sent
inside. -/
theorem deliver_posts_once_of_moved : ∃ e,
    (∃ done, (deliver moved hook e).run [] = (.ok 204, done) ∧
      done.requests = [posting e "/hook".toList, posting e "/new".toList] ∧
      Posts hook e (moved.exchanges 0 done.requests) (.ok 204)) ∧
    (deliver moved insideHook e).run [] =
      (.error (.rejected (.unsafeDestination ⟨.privateNet, "10.0.0.1".toList⟩)), []) := by
  let e : Event := .test ⟨0, 0⟩ 0
  obtain ⟨-, -, -, hposted⟩ := deliver_posts_once moved hook e [] run_check_hook
  obtain ⟨-, -, hrejected, -⟩ := deliver_posts_once moved insideHook e [] run_check_insideHook
  obtain ⟨done, hrun, hrequests⟩ := run_deliver_moved e
  obtain ⟨result, new, hrun', posts⟩ := hposted rfl
  cases hrun.symm.trans hrun'
  exact ⟨e, ⟨_, hrun, hrequests, posts⟩, hrejected _ rfl⟩

end MediaPerimeter.Callback
