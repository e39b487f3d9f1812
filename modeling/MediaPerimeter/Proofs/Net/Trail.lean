import MediaPerimeter.Proofs.Net.Hop

/-!
# The trail of a call

`Trail` lists everything that following redirects can do, hop by hop, with the result. Each hop
starts from the log that the hops before it left, so its lookup is one of its own. `run_follow` says
that every run from a checked URL on leaves a trail.
-/
namespace MediaPerimeter.Net.Egress

def SendFault.ends (first : Text) : SendFault → Fault
  | .unsafeDestination u => .unsafeDestination u
  | .timeout => .dialTimeout
  | .failed => .request (.sending first)

/-- All that following redirects can do: the hops in order, each after the log that the earlier ones
left, and the result. Every hop but the first goes where the answer of the hop before it leads. -/
inductive Trail (n : Network) (first : Text) :
    Nat → Log → Request → List Hop → Except Fault Answer → Prop
  | broken {left log r h f} (sent : Sent n log r h (.error f)) :
      Trail n first left log r [h] (.error (f.ends first))
  | answered {left log r h answer} (sent : Sent n log r h (.ok answer))
      (stays : redirection? r answer = none) :
      Trail n first left log r [h] (.ok ⟨answer.status, r.url.text, answer.body⟩)
  | exhausted {log r h answer next} (sent : Sent n log r h (.ok answer))
      (leads : redirection? r answer = some next) :
      Trail n first 0 log r [h] (.error (.request (unfollowed first r next)))
  | barred {left log r h answer next f} (sent : Sent n log r h (.ok answer))
      (leads : redirection? r answer = some next) (bad : checkHop first r next = .error f) :
      Trail n first (left + 1) log r [h] (.error f)
  | onward {left log r h answer next u hops result} (sent : Sent n log r h (.ok answer))
      (leads : redirection? r answer = some next) (good : checkHop first r next = .ok u)
      (rest : Trail n first left (log ++ h.events) (redirected r answer.status u) hops result) :
      Trail n first (left + 1) log r (h :: hops) result

/-- A hop is made only to a URL that passes the check. -/
theorem checkUrl_of_checkHop {first next : Text} {r : Request} {u : Url}
    (h : checkHop first r next = .ok u) : Url.read next = .ok u ∧ checkUrl u = .ok () := by
  unfold checkHop at h
  cases hu : Url.read next with
  | error f => simp only [hu] at h; cases h
  | ok v =>
    simp only [hu] at h
    cases hc : checkUrl v with
    | ok w => simp only [hc] at h; cases h; exact ⟨rfl, hc⟩
    | error f => cases f <;> simp only [hc] at h <;> cases h

theorem checkHop_eq {next : Text} {u : Url} (hu : Url.read next = .ok u)
    (hc : checkUrl u = .ok ()) (first : Text) (r : Request) : checkHop first r next = .ok u := by
  simp only [checkHop, hu, hc]

theorem redirected_url (r : Request) (status : Nat) (u : Url) : (redirected r status u).url = u := by
  unfold redirected
  split <;> rfl

theorem unfollowed_eq {next : Text} {u : Url} (hu : Url.read next = .ok u) (first : Text)
    (r : Request) : unfollowed first r next = .following r.url.text := by
  simp only [unfollowed, hu]

theorem checkUrl_redirected {first next : Text} {r : Request} {u : Url}
    (h : checkHop first r next = .ok u) (status : Nat) : checkUrl (redirected r status u).url = .ok () := by
  rw [redirected_url]
  exact (checkUrl_of_checkHop h).2

theorem run_follow_broken {n : Network} {r : Request} {log after : Log} {f : SendFault}
    (hrun : (send n r).run log = (.error f, after)) (first : Text) (left : Nat) :
    (follow n first left r).run log = (.error (f.ends first), after) := by
  rw [follow, Action.run_bind, hrun]
  cases f <;> rfl

theorem run_follow_answered {n : Network} {r : Request} {log after : Log} {answer : Response}
    (hrun : (send n r).run log = (.ok answer, after)) (stays : redirection? r answer = none)
    (first : Text) (left : Nat) :
    (follow n first left r).run log = (.ok ⟨answer.status, r.url.text, answer.body⟩, after) := by
  rw [follow, Action.run_bind, hrun]
  simp only [stays]
  rfl

theorem run_follow_exhausted {n : Network} {r : Request} {log after : Log} {answer : Response}
    {next : Text} (hrun : (send n r).run log = (.ok answer, after))
    (leads : redirection? r answer = some next) (first : Text) :
    (follow n first 0 r).run log = (.error (.request (unfollowed first r next)), after) := by
  rw [follow, Action.run_bind, hrun]
  simp only [leads]
  rfl

theorem run_follow_onward {n : Network} {r : Request} {log after : Log} {answer : Response}
    {first next : Text} {u : Url} (hrun : (send n r).run log = (.ok answer, after))
    (leads : redirection? r answer = some next) (good : checkHop first r next = .ok u) (left : Nat) :
    (follow n first (left + 1) r).run log =
      (follow n first left (redirected r answer.status u)).run after := by
  rw [follow, Action.run_bind, hrun]
  simp only [leads, good]

/-- Every run of a call from a checked URL on leaves a trail. -/
theorem run_follow (n : Network) (first : Text) (left : Nat) (log : Log) (r : Request)
    (hr : checkUrl r.url = .ok ()) :
    ∃ hops result, Trail n first left log r hops result ∧
      (follow n first left r).run log = (result, log ++ hops.flatMap Hop.events) := by
  -- Every redirect that is followed leaves one fewer, and log and request are those of the next hop.
  induction left using Nat.strongRecOn generalizing log r with
  | _ left ih =>
  obtain ⟨h, out, sent, hrun⟩ := run_send n log hr
  have hone : log ++ [h].flatMap Hop.events = log ++ h.events := by rw [List.flatMap_singleton]
  cases out with
  | error f => exact ⟨[h], _, .broken sent, hone ▸ run_follow_broken hrun first left⟩
  | ok answer =>
    cases hlead : redirection? r answer with
    | none => exact ⟨[h], _, .answered sent hlead, hone ▸ run_follow_answered hrun hlead first left⟩
    | some next =>
      cases left with
      | zero => exact ⟨[h], _, .exhausted sent hlead, hone ▸ run_follow_exhausted hrun hlead first⟩
      | succ left =>
        cases hcheck : checkHop first r next with
        | error f =>
          refine ⟨[h], _, .barred sent hlead hcheck, ?_⟩
          rw [follow, Action.run_bind, hrun, hone]
          simp only [hlead, hcheck]
          rfl
        | ok u =>
          obtain ⟨hops, result, trail, hrest⟩ := ih left (Nat.lt_succ_self left) (log ++ h.events)
            (redirected r answer.status u) (checkUrl_redirected hcheck answer.status)
          refine ⟨h :: hops, result, .onward sent hlead hcheck trail, ?_⟩
          rw [run_follow_onward hrun hlead hcheck, hrest, List.flatMap_cons, List.append_assoc]

def departure (method : Method) (u : Url) (body : Option Json) : Request :=
  ⟨method, { withoutCredentials u with fragment := none }, body⟩

/-- Credentials and fragment have no part in where a request goes. -/
theorem departure_url (method : Method) (u : Url) (body : Option Json) :
    (departure method u body).url.scheme = u.scheme ∧
      (departure method u body).url.host = u.host ∧ (departure method u body).url.port = u.port := by
  unfold departure withoutCredentials
  split
  · exact ⟨rfl, rfl, rfl⟩
  · split <;> exact ⟨rfl, rfl, rfl⟩

theorem checkUrl_departure {u : Url} (h : checkUrl u = .ok ()) (method : Method)
    (body : Option Json) : checkUrl (departure method u body).url = .ok () := by
  obtain ⟨hscheme, hhost, -⟩ := departure_url method u body
  rw [← h]
  unfold checkUrl Url.isWeb
  rw [hscheme, hhost]

theorem of_readUrl {raw : Text} {u : Url} (h : readUrl raw = .ok u) :
    Url.read raw = .ok u ∧ checkUrl u = .ok () := by
  unfold readUrl at h
  cases hu : Url.read raw with
  | error f => simp only [hu] at h; cases h
  | ok v =>
    simp only [hu] at h
    cases hc : checkUrl v with
    | ok w => simp only [hc] at h; cases h; exact ⟨rfl, hc⟩
    | error f => simp only [hc] at h; cases h

/-- All that a call can do: it is refused before anything is sent, or leaves a trail. -/
inductive Called (n : Network) (log : Log) (method : Method) (body : Option Json) (raw : Text) :
    List Hop → Except Fault Answer → Prop
  | unread {f} (bad : readUrl raw = .error f) : Called n log method body raw [] (.error f)
  | unsendable {u} (good : readUrl raw = .ok u) (bad : isSendable (withoutCredentials u) = false) :
      Called n log method body raw []
        (.error (.request (.building (some (withoutCredentials u).text))))
  | departed {u hops result} (good : readUrl raw = .ok u)
      (sendable : isSendable (withoutCredentials u) = true)
      (trail : Trail n (withoutCredentials u).text (maxRedirects - 1) log (departure method u body)
        hops result) : Called n log method body raw hops result

/-- A call to a URL that can be sent follows redirects from there on. -/
theorem run_call_sendable {raw : Text} {u : Url} (hread : readUrl raw = .ok u)
    (hsend : isSendable (withoutCredentials u) = true) (n : Network) (method : Method)
    (body : Option Json) (log : Log) :
    (call n method body raw).run log =
      (follow n (withoutCredentials u).text (maxRedirects - 1) (departure method u body)).run log := by
  unfold call
  simp only [hread, hsend, ↓reduceIte]
  rfl

theorem run_call (n : Network) (method : Method) (body : Option Json) (raw : Text) (log : Log) :
    ∃ hops result, Called n log method body raw hops result ∧
      (call n method body raw).run log = (result, log ++ hops.flatMap Hop.events) := by
  have hnone : log ++ ([] : List Hop).flatMap Hop.events = log := List.append_nil log
  cases hread : readUrl raw with
  | error f => exact ⟨[], _, .unread hread, by rw [hnone, call, hread]; rfl⟩
  | ok u =>
    by_cases hsend : isSendable (withoutCredentials u) = true
    · obtain ⟨hops, result, trail, hrun⟩ := run_follow n (withoutCredentials u).text
        (maxRedirects - 1) log (departure method u body)
        (checkUrl_departure (of_readUrl hread).2 method body)
      refine ⟨hops, result, .departed hread hsend trail, ?_⟩
      rw [run_call_sendable hread hsend, hrun]
    · rw [Bool.not_eq_true] at hsend
      refine ⟨[], _, .unsendable hread hsend, ?_⟩
      unfold call
      simp only [hread, hsend, hnone]
      rfl

/-- An answer that comes over a secured connection is followed like any other. -/
example :
    let site : Network := ⟨fun _ _ => .error "no such name", fun _ => true, fun _ => .secured,
      fun i => .response ⟨if i = 0 then 302 else 200, some "https://9.9.9.9/".toList, []⟩⟩
    ((get site "https://8.8.8.8/".toList).run []).1.toOption =
      some ⟨200, "https://9.9.9.9/".toList, []⟩ := by
  decide +kernel

theorem checkHop_ne {first next : Text} {r : Request} {reason : String} :
    checkHop first r next ≠ .error (.invalidUrl reason) := by
  unfold checkHop
  cases Url.read next with
  | error f => simp
  | ok u =>
    dsimp only
    cases checkUrl u with
    | ok v => simp
    | error f => cases f <;> simp

/-- Once a call has left, no URL is found invalid. -/
theorem Trail.ne_invalidUrl {n : Network} {first : Text} {left : Nat} {log : Log} {r : Request}
    {hops : List Hop} {result : Except Fault Answer} (trail : Trail n first left log r hops result)
    (reason : String) : result ≠ .error (.invalidUrl reason) := by
  induction trail with
  | @broken _ _ _ _ f => cases f <;> simp [SendFault.ends]
  | answered | exhausted => simp
  | barred sent leads bad =>
    intro h
    cases h
    exact checkHop_ne bad
  | onward _ _ _ _ ih => exact ih

/-- A call finds its URL invalid just where the URL cannot be read. -/
theorem Called.invalidUrl_iff {n : Network} {log : Log} {method : Method} {body : Option Json}
    {raw : Text} {hops : List Hop} {result : Except Fault Answer}
    (called : Called n log method body raw hops result) (reason : String) :
    result = .error (.invalidUrl reason) ↔ readUrl raw = .error (.invalidUrl reason) := by
  cases called with
  | unread bad => rw [bad, Except.error.injEq, Except.error.injEq]
  | unsendable good bad => simp [good]
  | departed good sendable trail =>
    rw [good]
    exact iff_of_false (trail.ne_invalidUrl reason) nofun

end MediaPerimeter.Net.Egress
