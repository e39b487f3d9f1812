import MediaPerimeter.Callback.Delivery
import MediaPerimeter.Proofs.Net.Trail

/-!
# Only public addresses are dialed

Whatever the network answers, every endpoint that a call dials has a public address. For a hop to a
name the address is one of the answer that was looked up for that hop, and the whole answer is
public; what the check of a callback URL was told before plays no part.
-/
namespace MediaPerimeter.Net

open Egress

/-- The dials of a hop are covered by a check made in the same hop. -/
structure Egress.Hop.Guarded (h : Hop) : Prop where
  isPublic : ∀ e ∈ h.dialed, e.address.check = .ok ()
  ofAnswer : ∀ name, h.request.url.host = some (.name name) → ∀ e ∈ h.dialed,
    ∃ answer, h.told = some (.ok answer) ∧ e.address ∈ answer ∧ ∀ a ∈ answer, a.check = .ok ()
  ofLiteral : ∀ host a, h.request.url.host = some host → host.address? = some a →
    ∀ e ∈ h.dialed, e.address = a

theorem Egress.Hop.guarded_of_nil {h : Hop} (hd : h.dialed = []) : h.Guarded := by
  constructor <;> simp [hd]

/-- Dialing addresses that may be dialed is guarded. -/
theorem Egress.Allowed.guarded {n : Network} {log : Log} {r : Request} {host : Url.Host}
    {told : Option Told} {addresses : List Address}
    (allowed : Allowed n log host told addresses) (hr : checkUrl r.url = .ok ())
    (hhost : r.url.host = some host) (port : Nat) (reply : Option Reply) :
    (⟨r, told, dialed n port addresses, reply⟩ : Hop).Guarded := by
  cases allowed with
  | @literal _ a ha =>
    obtain ⟨-, host', hhost', hpublic⟩ := of_checkUrl hr
    rw [hhost] at hhost'
    cases hhost'
    have honly : ∀ e ∈ dialed n port [a], e.address = a := fun e he =>
      List.mem_singleton.mp (mem_of_mem_dialed he)
    refine ⟨fun e he => ?_, fun name hname => ?_, fun h' b hh' hb e he => ?_⟩
    · rw [honly e he]
      exact hpublic a ha
    · rw [hhost] at hname
      cases hname
      cases ha
    · rw [hhost] at hh'
      cases hh'
      rw [ha] at hb
      cases hb
      exact honly e he
  | @resolved name _ happ =>
    obtain ⟨htold, hpublic⟩ := Guard.eq_of_approve happ
    refine ⟨fun e he => hpublic _ (mem_of_mem_dialed he), fun name' _ e he => ?_,
      fun h' b hh' hb => ?_⟩
    · exact ⟨addresses, congrArg some htold, mem_of_mem_dialed he, hpublic⟩
    · rw [hhost] at hh'
      cases hh'
      cases hb

theorem Egress.Sent.guarded {n : Network} {log : Log} {r : Request} {h : Hop}
    {out : Except SendFault Response} (sent : Sent n log r h out)
    (hr : checkUrl r.url = .ok ()) : h.Guarded := by
  cases sent with
  | refused => exact Hop.guarded_of_nil rfl
  | unreached hhost _ allowed => exact allowed.guarded hr hhost _ _
  | unsecured hhost _ allowed => exact allowed.guarded hr hhost _ _
  | asked hhost _ allowed => exact allowed.guarded hr hhost _ _

/-- The check is made again at every hop, so it covers the whole trail. -/
theorem Egress.Trail.guarded {n : Network} {first : Text} {left : Nat} {log : Log} {r : Request}
    {hops : List Hop} {result : Except Fault Answer} (trail : Trail n first left log r hops result)
    (hr : checkUrl r.url = .ok ()) : ∀ h ∈ hops, h.Guarded := by
  induction trail with
  | broken sent | answered sent | exhausted sent | barred sent =>
    intro h hh
    cases List.mem_singleton.mp hh
    exact sent.guarded hr
  | onward sent _ good _ ih =>
    intro h hh
    rcases List.mem_cons.mp hh with rfl | hh
    · exact sent.guarded hr
    · exact ih (checkUrl_redirected good _) h hh

theorem Egress.Called.guarded {n : Network} {log : Log} {method : Method} {body : Option Json}
    {raw : Text} {hops : List Hop} {result : Except Fault Answer}
    (called : Called n log method body raw hops result) : ∀ h ∈ hops, h.Guarded := by
  cases called with
  | unread | unsendable => simp
  | departed good _ trail => exact trail.guarded (checkUrl_departure (of_readUrl good).2 _ _)

theorem Egress.Hop.dials_events (h : Hop) : Log.dials h.events = h.dialed := by
  have hask : Log.dials (h.reply.map fun _ => Event.request h.request).toList = [] := by
    cases h.reply <;> rfl
  rw [Hop.events, dials_append, dials_append, dials_lookups, dials_map_dial, hask, List.append_nil,
    List.nil_append]

theorem dials_flatMap_events (hops : List Hop) :
    Log.dials (hops.flatMap Hop.events) = hops.flatMap Hop.dialed := by
  induction hops with
  | nil => rfl
  | cons h rest ih => rw [List.flatMap_cons, dials_append, ih, h.dials_events, List.flatMap_cons]

/-- Checking a callback URL looks a name up at most; it dials nothing. -/
theorem run_check (n : Network) (raw : Text) (log : Log) :
    ∃ result looked, Log.dials looked = [] ∧
      (Callback.check n raw).run log = (result, log ++ looked) := by
  unfold Callback.check
  cases Callback.hostOf raw with
  | error f => exact ⟨.error f, [], rfl, by rw [List.append_nil]; rfl⟩
  | ok host =>
    refine ⟨Callback.approve host (n.told log host), lookedUp host (n.told log host),
      dials_lookedUp _ _, ?_⟩
    simp only [Action.run_bind, Network.run_lookup]
    rfl

inductive Call where
  | get (raw : Text)
  | post (raw : Text) (body : Json)
  | deliver (raw : Text) (e : Callback.Event)

namespace Call

def log (n : Network) (before : Log) : Call → Log
  | get raw => ((Egress.get n raw).run before).2
  | post raw body => ((Egress.post n raw body).run before).2
  | deliver raw e => ((Callback.deliver n raw e).run before).2

/-- The hops of the call after a log. A delivery that is rejected has none. -/
def Makes (n : Network) (log : Log) (hops : List Hop) : Call → Prop
  | get raw => ∃ result, Called n log .get none raw hops result
  | post raw body => ∃ result, Called n log .post (some body) raw hops result
  | deliver raw e => hops = [] ∨ ∃ result, Called n log .post (some e.json) raw hops result

theorem Makes.guarded {n : Network} {log : Log} {hops : List Hop} {c : Call}
    (h : c.Makes n log hops) : ∀ h ∈ hops, h.Guarded := by
  cases c with
  | get | post =>
    obtain ⟨result, called⟩ := h
    exact called.guarded
  | deliver raw e =>
    rcases h with rfl | ⟨result, called⟩
    · simp
    · exact called.guarded

/-- What a call adds to the log: what a delivery looks up for its check, then its hops. -/
theorem log_eq (n : Network) (c : Call) (before : Log) :
    ∃ looked hops, Log.dials looked = [] ∧ c.Makes n (before ++ looked) hops ∧
      c.log n before = before ++ looked ++ hops.flatMap Hop.events := by
  cases c with
  | get raw =>
    obtain ⟨hops, result, called, hrun⟩ := run_call n .get none raw before
    refine ⟨[], hops, rfl, ⟨result, by rwa [List.append_nil]⟩, ?_⟩
    rw [log, Egress.get, hrun, List.append_nil]
  | post raw body =>
    obtain ⟨hops, result, called, hrun⟩ := run_call n .post (some body) raw before
    refine ⟨[], hops, rfl, ⟨result, by rwa [List.append_nil]⟩, ?_⟩
    rw [log, Egress.post, hrun, List.append_nil]
  | deliver raw e =>
    obtain ⟨verdict, looked, hlooked, hcheck⟩ := run_check n raw before
    cases verdict with
    | error f =>
      refine ⟨looked, [], hlooked, .inl rfl, ?_⟩
      rw [log, Callback.deliver, Action.run_bind, hcheck, List.flatMap_nil, List.append_nil]
      rfl
    | ok v =>
      obtain ⟨hops, result, called, hrun⟩ := run_call n .post (some e.json) raw (before ++ looked)
      refine ⟨looked, hops, hlooked, .inr ⟨result, called⟩, ?_⟩
      rw [log, Callback.deliver, Action.run_bind, hcheck]
      simp only [Action.run_bind, Egress.post, hrun]
      cases result <;> rfl

end Call

/-- No call dials an address that is not public, on any network: all dials of a call are those of its
hops, and each hop is guarded by what was looked up for it. -/
theorem dials_guarded (n : Network) (c : Call) (before : Log) :
    ∃ looked hops, c.Makes n (before ++ looked) hops ∧
      c.log n before = before ++ looked ++ hops.flatMap Hop.events ∧
      (c.log n before).dials = before.dials ++ hops.flatMap Hop.dialed ∧
      ∀ h ∈ hops, h.Guarded := by
  obtain ⟨looked, hops, hlooked, makes, hlog⟩ := c.log_eq n before
  refine ⟨looked, hops, makes, hlog, ?_, makes.guarded⟩
  rw [hlog, dials_append, dials_append, hlooked, dials_flatMap_events, List.append_nil]

end MediaPerimeter.Net
