import Mathlib.Data.List.Chain
import MediaPerimeter.Proofs.Net.Trail

/-!
# What a call asks and is told

An exchange is a request that was sent, with what came back for it. The exchanges of a call hang
together: its own request comes first, and every other goes where the answer before it leads. Nothing
is sent for any other reason, so a request that has no answer is the last.
-/
namespace MediaPerimeter.Net

structure Exchange where
  request : Request
  reply : Reply

def Exchange.isRedirected (x : Exchange) : Bool :=
  match x.reply with
  | .response answer => Egress.isRedirect answer.status
  | .silence | .hangUp => false

/-- What comes back for the requests, after so many others. -/
def Network.exchanges (n : Network) (count : Nat) : List Request → List Exchange
  | [] => []
  | r :: rest => ⟨r, n.reply count⟩ :: n.exchanges (count + 1) rest

namespace Egress

variable {n : Network} {log : Log} {first : Text} {left : Nat} {r : Request} {h : Hop}
variable {xs : List Exchange} {result : Except Fault Answer}

/-- What came back redirects to a location that, joined to the URL asked for, is the URL of the next
request. -/
inductive Leads (x : Exchange) : Request → Prop
  | location {answer location reference next u} (hreply : x.reply = .response answer)
      (hstatus : isRedirect answer.status = true) (hlocation : answer.location = some location)
      (hreference : Reference.read? location = some reference)
      (hjoin : reference.join? x.request.url = some next) (hread : Url.read next = .ok u) :
      Leads x (redirected x.request answer.status u)

/-- The exchanges of a call that begins with a request. -/
structure Dialogue (r : Request) (xs : List Exchange) (result : Except Fault Answer) : Prop where
  opens : ∀ x ∈ xs.head?, x.request = r
  led : xs.IsChain fun x y => Leads x y.request
  status : ∀ s, result.map Answer.status = .ok s ↔ ∃ x answer, xs.getLast? = some x ∧
    x.reply = .response answer ∧ redirection? x.request answer = none ∧ s = answer.status

theorem leads_of_redirection? {x : Exchange} {answer : Response} {next : Text} {u : Url}
    (hreply : x.reply = .response answer) (h : redirection? x.request answer = some next)
    (hread : Url.read next = .ok u) : Leads x (redirected x.request answer.status u) := by
  unfold redirection? at h
  split at h
  · rename_i hstatus
    simp only [bind, Option.bind_eq_some_iff] at h
    obtain ⟨location, hlocation, reference, hreference, hjoin⟩ := h
    exact .location hreply hstatus hlocation hreference hjoin hread
  · cases h

theorem Leads.isRedirected {x : Exchange} (h : Leads x r) : x.isRedirected = true := by
  cases h with
  | location hreply hstatus => simp [Exchange.isRedirected, hreply, hstatus]

/-- A request is sent once or not at all, and what comes back for it is what the network has next. -/
theorem Sent.requests_cases {out : Except SendFault Response} (sent : Sent n log r h out) :
    (Log.requests h.events = [] ∧ ∃ f, out = .error f) ∨
      Log.requests h.events = [r] ∧ out = outcome (n.reply log.requests.length) := by
  cases sent with
  | refused | unreached | unsecured => exact .inl ⟨requests_events _, _, rfl⟩
  | asked => exact .inr ⟨requests_events _, rfl⟩

theorem Sent.requests_of_ok {answer : Response} (sent : Sent n log r h (.ok answer)) :
    Log.requests h.events = [r] ∧ n.reply log.requests.length = .response answer := by
  rcases sent.requests_cases with ⟨-, f, hf⟩ | ⟨hone, hout⟩
  · cases hf
  · exact ⟨hone, outcome_eq_ok_iff.mp hout.symm⟩

theorem Sent.requests_of_error {f : SendFault} (sent : Sent n log r h (.error f)) :
    Log.requests h.events = [] ∨ Log.requests h.events = [r] ∧
      ∀ answer, n.reply log.requests.length ≠ .response answer := by
  rcases sent.requests_cases with ⟨hnone, -⟩ | ⟨hone, hout⟩
  · exact .inl hnone
  · refine .inr ⟨hone, fun answer hreply => ?_⟩
    rw [hreply] at hout
    cases hout

theorem Dialogue.silent (r : Request) (f : Fault) : Dialogue r [] (.error f) where
  opens x hx := by cases hx
  led := .nil
  status s := by simp [Except.map]

theorem Dialogue.single {reply : Reply}
    (h : ∀ s, result.map Answer.status = .ok s ↔
      ∃ answer, reply = .response answer ∧ redirection? r answer = none ∧ s = answer.status) :
    Dialogue r [⟨r, reply⟩] result where
  opens x hx := by
    cases hx
    rfl
  led := .singleton _
  status s := by simp [h s]

/-- An answer that leads on is followed by what the next request brings. -/
theorem Dialogue.cons {x : Exchange} {answer : Response} {next : Text} {u : Url}
    (hreply : x.reply = .response answer) (leads : redirection? x.request answer = some next)
    (hread : Url.read next = .ok u)
    (rest : Dialogue (redirected x.request answer.status u) xs result) :
    Dialogue x.request (x :: xs) result where
  opens y hy := by
    cases hy
    rfl
  led := by
    refine List.isChain_cons.mpr ⟨fun y hy => ?_, rest.led⟩
    rw [rest.opens y hy]
    exact leads_of_redirection? hreply leads hread
  status s := by
    rw [rest.status s]
    cases xs with
    | nil => simp [hreply, leads]
    | cons y ys => rw [List.getLast?_cons_cons]

/-- A call that goes no further than an answer. -/
theorem Sent.dialogue {answer : Response} (sent : Sent n log r h (.ok answer))
    (hresult : ∀ s, result.map Answer.status = .ok s ↔
      redirection? r answer = none ∧ s = answer.status) :
    Dialogue r (n.exchanges log.requests.length (Log.requests ([h].flatMap Hop.events))) result := by
  obtain ⟨hone, hreply⟩ := sent.requests_of_ok
  rw [List.flatMap_singleton, hone]
  exact .single fun s => by simp [hresult, hreply]

/-- The requests of a trail and what comes back for them are a dialogue. -/
theorem Trail.dialogue {hops : List Hop} (trail : Trail n first left log r hops result) :
    Dialogue r (n.exchanges log.requests.length (Log.requests (hops.flatMap Hop.events))) result := by
  -- The replies are counted from the log of the hop, so every hop finds its own.
  induction trail with
  | @broken left log r h f sent =>
    rw [List.flatMap_singleton]
    rcases sent.requests_of_error with hnone | ⟨hone, hreply⟩
    · rw [hnone]
      exact .silent r _
    · rw [hone]
      exact .single fun s => by simp [hreply, Except.map]
  | answered sent stays => exact sent.dialogue fun s => by simp [stays, Except.map, eq_comm]
  | exhausted sent leads => exact sent.dialogue fun s => by simp [leads, Except.map]
  | barred sent leads bad => exact sent.dialogue fun s => by simp [leads, Except.map]
  | @onward left log r h answer next u hops result sent leads good rest ih =>
    obtain ⟨hone, hreply⟩ := sent.requests_of_ok
    have hread : Url.read next = .ok u := (checkUrl_of_checkHop good).1
    rw [requests_append, hone, List.length_append] at ih
    rw [List.flatMap_cons, requests_append, hone]
    exact .cons (x := ⟨r, n.reply log.requests.length⟩) hreply leads hread ih

/-- Only the last exchange of a call need not be a redirect. -/
theorem isRedirected_of_led (hled : xs.IsChain fun x y => Leads x y.request) :
    ∀ x ∈ xs.dropLast, x.isRedirected = true := by
  induction xs with
  | nil => simp
  | cons x xs ih =>
    cases xs with
    | nil => simp
    | cons y ys =>
      obtain ⟨hfirst, hrest⟩ := List.isChain_cons_cons.mp hled
      rw [List.dropLast_cons_cons]
      exact List.forall_mem_cons.mpr ⟨hfirst.isRedirected, ih hrest⟩

/-- Every request but the first is paid for by a redirect. -/
theorem length_le_of_led (hled : xs.IsChain fun x y => Leads x y.request) :
    xs.length ≤ 1 + xs.countP Exchange.isRedirected := by
  have hall : xs.dropLast.countP Exchange.isRedirected = xs.dropLast.length :=
    List.countP_eq_length.mpr (isRedirected_of_led hled)
  have hle : xs.dropLast.countP Exchange.isRedirected ≤ xs.countP Exchange.isRedirected :=
    (List.dropLast_sublist xs).countP_le
  rw [List.length_dropLast] at hall
  omega

end Egress
end MediaPerimeter.Net
