import MediaPerimeter.Net.Egress

/-!
# Hops

A hop is one request of a call: the answer that was looked up for its host, the endpoints dialed, and
what came back. `Sent` lists everything that sending a request can do, and `run_send` says that the
list is complete for every URL that passes the check. The network is any network at all; in
particular a name may have another answer at every lookup.
-/
namespace MediaPerimeter.Net

theorem Action.run_bind {α β : Type} (x : Action α) (f : α → Action β) (log : Log) :
    (x >>= f).run log = (f (x.run log).1).run (x.run log).2 := rfl

theorem Action.run_pure {α : Type} (a : α) (log : Log) : (pure a : Action α).run log = (a, log) :=
  rfl

/-- What a lookup after the log is told of the name. -/
def Network.told (n : Network) (log : Log) (name : Text) : Told :=
  match Address.ofText? name with
  | some a => .ok [a]
  | none => n.addresses name (log.lookups name)

def lookedUp (name : Text) (told : Told) : Log :=
  if (Address.ofText? name).isSome then [] else [.lookup name told]

theorem Network.run_lookup (n : Network) (name : Text) (log : Log) :
    (n.lookup name).run log = (n.told log name, log ++ lookedUp name (n.told log name)) := by
  unfold Network.lookup Network.told lookedUp
  cases Address.ofText? name with
  | some a => exact congrArg (Prod.mk _) (List.append_nil log).symm
  | none => rfl

theorem Network.run_dial (n : Network) (e : Endpoint) (log : Log) :
    (n.dial e).run log = (n.accepts e.address, log ++ [.dial e]) := rfl

theorem Network.run_ask (n : Network) (r : Request) (log : Log) :
    (n.ask r).run log = (n.reply log.requests.length, log ++ [.request r]) := rfl

theorem Network.run_secure (n : Network) (log : Log) :
    n.secure.run log = (n.secures log.dials.length, log) := rfl

theorem Guard.run_resolve (n : Network) (name : Text) (log : Log) :
    (Guard.resolve n name).run log =
      (Guard.approve name (n.told log name), log ++ lookedUp name (n.told log name)) := by
  rw [Guard.resolve, Action.run_bind, Network.run_lookup, Action.run_pure]

/-- Approved addresses are the whole answer, and all of them are public. -/
theorem Guard.eq_of_approve {name : Text} {told : Told} {addresses : List Address}
    (h : Guard.approve name told = .ok addresses) :
    told = .ok addresses ∧ ∀ a ∈ addresses, a.check = .ok () := by
  match told with
  | .error text => cases h
  | .ok [] => cases h
  | .ok (a :: rest) =>
    simp only [Guard.approve] at h
    cases hc : Address.checkAll (a :: rest) with
    | error u => simp only [hc] at h; cases h
    | ok v =>
      simp only [hc] at h
      cases h
      exact ⟨rfl, fun b hb => Address.check_eq_ok_iff.mpr (Address.checkAll_eq_ok_iff.mp hc b hb)⟩

/-- The addresses that are dialed: all up to the first that accepts. -/
def Network.attempts (n : Network) : List Address → List Address
  | [] => []
  | a :: rest => if n.accepts a then [a] else a :: n.attempts rest

theorem Network.mem_of_mem_attempts {n : Network} {as : List Address} {a : Address}
    (h : a ∈ n.attempts as) : a ∈ as := by
  induction as with
  | nil => exact h
  | cons b rest ih =>
    rw [Network.attempts] at h
    split at h
    · exact List.mem_cons.mpr (.inl (List.mem_singleton.mp h))
    · rcases List.mem_cons.mp h with rfl | h
      · exact List.mem_cons_self
      · exact List.mem_cons_of_mem _ (ih h)

namespace Egress

theorem mem_dialOrder {a : Address} {as : List Address} : a ∈ dialOrder as ↔ a ∈ as := by
  cases as with
  | nil => simp [dialOrder]
  | cons b rest =>
    simp only [dialOrder, List.partition_eq_filter_filter, List.mem_append, List.mem_cons,
      List.mem_filter]
    by_cases h : a.isV6 = b.isV6 <;> simp [h]

theorem any_dialOrder (p : Address → Bool) (as : List Address) :
    (dialOrder as).any p = as.any p := by
  rw [Bool.eq_iff_iff, List.any_eq_true, List.any_eq_true]
  simp only [mem_dialOrder]

theorem run_connect (n : Network) (port : Nat) (as : List Address) (log : Log) :
    (connect n port as).run log =
      (as.any n.accepts, log ++ (n.attempts as).map fun a => .dial ⟨a, port⟩) := by
  induction as generalizing log with
  | nil => simp only [connect, Action.run_pure, Network.attempts, List.any_nil, List.map_nil,
      List.append_nil]
  | cons a rest ih =>
    rw [connect, Action.run_bind, Network.run_dial]
    by_cases h : n.accepts a = true
    · simp only [h, ↓reduceIte, Action.run_pure, Network.attempts, List.any_cons, Bool.true_or,
        List.map_cons, List.map_nil]
    · simp [h, Network.attempts, ih]

def dialed (n : Network) (port : Nat) (addresses : List Address) : List Endpoint :=
  (n.attempts (dialOrder addresses)).map fun a => ⟨a, port⟩

theorem mem_of_mem_dialed {n : Network} {port : Nat} {addresses : List Address} {e : Endpoint}
    (h : e ∈ dialed n port addresses) : e.address ∈ addresses := by
  obtain ⟨a, ha, rfl⟩ := List.mem_map.mp h
  exact mem_dialOrder.mp (Network.mem_of_mem_attempts ha)

theorem run_connect_dialOrder (n : Network) (port : Nat) (addresses : List Address) (log : Log) :
    (connect n port (dialOrder addresses)).run log =
      (addresses.any n.accepts, log ++ (dialed n port addresses).map Event.dial) := by
  rw [run_connect, any_dialOrder, dialed, List.map_map]
  rfl

/-- One request of a call and what it did to the network. -/
structure Hop where
  request : Request
  /-- What the resolver was told for the host, if it is a name. -/
  told : Option Told
  dialed : List Endpoint
  /-- What came back, if the request was sent at all. -/
  reply : Option Reply

namespace Hop

def lookups (h : Hop) : Log :=
  match h.request.url.host, h.told with
  | some (.name name), some told => lookedUp name told
  | _, _ => []

def events (h : Hop) : Log :=
  h.lookups ++ h.dialed.map Event.dial ++ (h.reply.map fun _ => Event.request h.request).toList

end Hop

/-- The addresses that may be dialed for a host: the one that it is, or those of an approved answer
for its name. -/
inductive Allowed (n : Network) (log : Log) : Url.Host → Option Told → List Address → Prop
  | literal {host a} (ha : host.address? = some a) : Allowed n log host none [a]
  | resolved {name addresses} (h : Guard.approve name (n.told log name) = .ok addresses) :
      Allowed n log (.name name) (some (n.told log name)) addresses

def refusal : Guard.Fault → SendFault
  | .unsafeAddress u => .unsafeDestination u
  | _ => .failed

def outcome : Reply → Except SendFault Response
  | .response answer => .ok answer
  | .silence => .error .timeout
  | .hangUp => .error .failed

def failure? : Handshake → Option SendFault
  | .secured => none
  | .silence => some .timeout
  | .refused => some .failed

/-- What comes of preparing the last of the connections that are dialed after the log. -/
def prepared (n : Network) (log : Log) (r : Request) (es : List Endpoint) : Handshake :=
  if r.url.scheme = "https".toList then n.secures (log.dials.length + es.length) else .secured

/-- All that sending a request after the log can do, and how it ends. -/
inductive Sent (n : Network) (log : Log) (r : Request) : Hop → Except SendFault Response → Prop
  | refused {name fault} (hhost : r.url.host = some (.name name))
      (bad : Guard.approve name (n.told log name) = .error fault) :
      Sent n log r ⟨r, some (n.told log name), [], none⟩ (.error (refusal fault))
  | unreached {host port told addresses} (hhost : r.url.host = some host)
      (hport : r.url.dialPort? = some port) (allowed : Allowed n log host told addresses)
      (dead : addresses.any n.accepts = false) :
      Sent n log r ⟨r, told, dialed n port addresses, none⟩ (.error .failed)
  | unsecured {host port told addresses fault} (hhost : r.url.host = some host)
      (hport : r.url.dialPort? = some port) (allowed : Allowed n log host told addresses)
      (alive : addresses.any n.accepts = true)
      (failed : failure? (prepared n log r (dialed n port addresses)) = some fault) :
      Sent n log r ⟨r, told, dialed n port addresses, none⟩ (.error fault)
  | asked {host port told addresses} (hhost : r.url.host = some host)
      (hport : r.url.dialPort? = some port) (allowed : Allowed n log host told addresses)
      (alive : addresses.any n.accepts = true)
      (ready : prepared n log r (dialed n port addresses) = .secured) :
      Sent n log r ⟨r, told, dialed n port addresses, some (n.reply log.requests.length)⟩
        (outcome (n.reply log.requests.length))

theorem failure?_eq_none_iff {handshake : Handshake} :
    failure? handshake = none ↔ handshake = .secured := by
  cases handshake <;> simp [failure?]

theorem outcome_eq_ok_iff {reply : Reply} {answer : Response} :
    outcome reply = .ok answer ↔ reply = .response answer := by
  cases reply <;> simp [outcome]

theorem requests_lookedUp (name : Text) (told : Told) : Log.requests (lookedUp name told) = [] := by
  unfold lookedUp
  split <;> rfl

theorem dials_lookedUp (name : Text) (told : Told) : Log.dials (lookedUp name told) = [] := by
  unfold lookedUp
  split <;> rfl

theorem requests_lookups (h : Hop) : Log.requests h.lookups = [] := by
  unfold Hop.lookups
  split
  · exact requests_lookedUp _ _
  · rfl

theorem dials_lookups (h : Hop) : Log.dials h.lookups = [] := by
  unfold Hop.lookups
  split
  · exact dials_lookedUp _ _
  · rfl

theorem requests_map_dial (es : List Endpoint) : Log.requests (es.map Event.dial) = [] := by
  simp [Log.requests]

theorem dials_map_dial (es : List Endpoint) : Log.dials (es.map Event.dial) = es := by
  rw [Log.dials, List.filterMap_map]
  exact List.filterMap_some

theorem requests_append (log new : Log) : (log ++ new : Log).requests = log.requests ++ new.requests :=
  List.filterMap_append

theorem dials_append (log new : Log) : (log ++ new : Log).dials = log.dials ++ new.dials :=
  List.filterMap_append

theorem requests_events (h : Hop) :
    Log.requests h.events = (h.reply.map fun _ => h.request).toList := by
  rw [Hop.events, requests_append, requests_append, requests_lookups, requests_map_dial]
  cases h.reply <;> rfl

theorem events_of_asked (r : Request) (told : Option Told) (es : List Endpoint) (reply : Reply) :
    (⟨r, told, es, some reply⟩ : Hop).events =
      (⟨r, told, es, none⟩ : Hop).events ++ [.request r] := by
  simp [Hop.events, Hop.lookups]

theorem run_addressesOf_name (n : Network) (name : Text) (log : Log) :
    (addressesOf n (.name name)).run log =
      ((Guard.approve name (n.told log name)).mapError refusal,
        log ++ lookedUp name (n.told log name)) := by
  simp only [addressesOf, Url.Host.address?, Url.Host.text, Action.run_bind, Guard.run_resolve]
  cases Guard.approve name (n.told log name) with
  | ok addresses => rfl
  | error fault => cases fault <;> rfl

/-- A host that is an address is not looked up. -/
theorem run_addressesOf {n : Network} {log : Log} {r : Request} {host : Url.Host}
    {told : Option Told} {addresses : List Address} (hhost : r.url.host = some host)
    (allowed : Allowed n log host told addresses) (es : List Endpoint) (reply : Option Reply) :
    (addressesOf n host).run log =
      (.ok addresses, log ++ (⟨r, told, es, reply⟩ : Hop).lookups) := by
  cases allowed with
  | literal ha =>
    have hnone : (⟨r, none, es, reply⟩ : Hop).lookups = [] := by
      cases host with
      | name => cases ha
      | v4 | v6 => simp only [Hop.lookups, hhost]
    rw [hnone, List.append_nil, addressesOf]
    simp only [ha]
    rfl
  | resolved h =>
    rw [run_addressesOf_name, h]
    simp only [Hop.lookups, hhost]
    rfl

def askReady (n : Network) (r : Request) : Action (Except SendFault Response) :=
  return outcome (← n.ask r)

theorem run_askReady (n : Network) (r : Request) (log : Log) :
    (askReady n r).run log =
      (outcome (n.reply log.requests.length), log ++ [.request r]) := rfl

/-- Preparing the connection leaves nothing in the log. -/
theorem run_prepare (n : Network) (log : Log) (r : Request) (told : Option Told)
    (es : List Endpoint) :
    (prepare n r.url.scheme).run (log ++ (⟨r, told, es, none⟩ : Hop).events) =
      (prepared n log r es, log ++ (⟨r, told, es, none⟩ : Hop).events) := by
  unfold prepare prepared
  split
  · have hnone : Log.dials ((none : Option Reply).map fun _ => Event.request r).toList = [] := rfl
    rw [Network.run_secure, Hop.events, dials_append, dials_append, dials_append, dials_lookups,
      dials_map_dial, hnone, List.append_nil, List.nil_append, List.length_append]
  · rfl

section Allowed

variable {n : Network} {log : Log} {r : Request} {host : Url.Host} {port : Nat} {told : Option Told}
variable {addresses : List Address} (hhost : r.url.host = some host)
variable (hport : r.url.dialPort? = some port) (allowed : Allowed n log host told addresses)
include hhost hport allowed

theorem run_send_dead (dead : addresses.any n.accepts = false) :
    (send n r).run log =
      (.error .failed, log ++ (⟨r, told, dialed n port addresses, none⟩ : Hop).events) := by
  simp only [send, hhost, hport, Action.run_bind,
    run_addressesOf hhost allowed (dialed n port addresses) none, run_connect_dialOrder, dead,
    Bool.false_eq_true, ↓reduceIte, Action.run_pure, Hop.events, Option.map_none,
    Option.toList_none, List.append_nil, List.append_assoc]

/-- Once a connection has been dialed, what comes of preparing it decides how the request goes on. -/
theorem run_send_alive (alive : addresses.any n.accepts = true) :
    (send n r).run log =
      (match failure? (prepared n log r (dialed n port addresses)) with
        | some fault => return .error fault
        | none => askReady n r : Action (Except SendFault Response)).run
        (log ++ (⟨r, told, dialed n port addresses, none⟩ : Hop).events) := by
  have hevents : log ++ (⟨r, told, dialed n port addresses, none⟩ : Hop).lookups ++
      (dialed n port addresses).map Event.dial =
        log ++ (⟨r, told, dialed n port addresses, none⟩ : Hop).events := by
    simp only [Hop.events, Option.map_none, Option.toList_none, List.append_nil, List.append_assoc]
  simp only [send, hhost, hport, Action.run_bind,
    run_addressesOf hhost allowed (dialed n port addresses) none, run_connect_dialOrder, alive,
    ↓reduceIte, hevents, run_prepare]
  cases prepared n log r (dialed n port addresses) with
  | silence | refused => rfl
  | secured =>
    refine Eq.trans ?_ (run_askReady n r _).symm
    dsimp only [Action.run_bind, Network.run_ask]
    cases n.reply _ <;> rfl

/-- A request to a host that accepts is sent over a connection that is ready, and the next reply of
the network is its outcome. -/
theorem run_send_asked (alive : addresses.any n.accepts = true)
    (ready : prepared n log r (dialed n port addresses) = .secured) :
    (send n r).run log = (outcome (n.reply log.requests.length), log ++
      (⟨r, told, dialed n port addresses, some (n.reply log.requests.length)⟩ : Hop).events) := by
  have hcount : (log ++ (⟨r, told, dialed n port addresses, none⟩ : Hop).events).requests.length =
      log.requests.length := by
    rw [requests_append, requests_events]
    exact congrArg List.length (List.append_nil _)
  rw [run_send_alive hhost hport allowed alive, ready]
  refine (run_askReady n r _).trans ?_
  rw [hcount, events_of_asked, List.append_assoc]

theorem run_send_allowed :
    ∃ h out, Sent n log r h out ∧ (send n r).run log = (out, log ++ h.events) := by
  cases alive : addresses.any n.accepts with
  | false =>
    exact ⟨_, _, .unreached hhost hport allowed alive, run_send_dead hhost hport allowed alive⟩
  | true =>
    cases failed : failure? (prepared n log r (dialed n port addresses)) with
    | some fault =>
      refine ⟨_, _, .unsecured hhost hport allowed alive failed, ?_⟩
      rw [run_send_alive hhost hport allowed alive, failed]
      rfl
    | none =>
      have ready := failure?_eq_none_iff.mp failed
      exact ⟨_, _, .asked hhost hport allowed alive ready,
        run_send_asked hhost hport allowed alive ready⟩

end Allowed

/-- Only a request that was sent has an answer. -/
theorem Sent.run_of_ok {n : Network} {log : Log} {r : Request} {h : Hop} {answer : Response}
    (sent : Sent n log r h (.ok answer)) : (send n r).run log = (.ok answer, log ++ h.events) := by
  generalize hout : (Except.ok answer : Except SendFault Response) = out at sent
  cases sent with
  | refused | unreached | unsecured => cases hout
  | asked hhost hport allowed alive ready => exact run_send_asked hhost hport allowed alive ready

/-- A URL that passes the check is of the web, and a host that is an address is public. -/
theorem of_checkUrl {u : Url} (h : checkUrl u = .ok ()) :
    u.isWeb = true ∧ ∃ host, u.host = some host ∧ ∀ a, host.address? = some a → a.check = .ok () := by
  unfold checkUrl at h
  by_cases hw : u.isWeb = true
  · refine ⟨hw, ?_⟩
    simp only [hw, ↓reduceIte] at h
    cases hh : u.host with
    | none => simp only [hh] at h; cases h
    | some host =>
      refine ⟨host, rfl, ?_⟩
      intro a ha
      simp only [hh, ha, Option.map_some] at h
      cases hc : a.check with
      | ok v => rfl
      | error f => simp only [hc] at h; cases h
  · simp only [hw] at h
    cases h

theorem exists_dialPort {u : Url} (h : u.isWeb = true) : ∃ port, u.dialPort? = some port := by
  have husual : (Url.usualPort? u.scheme).isSome = true := by
    simp only [Url.isWeb, Bool.or_eq_true, beq_iff_eq] at h
    rcases h with h | h <;> rw [h] <;> decide
  obtain ⟨port, hport⟩ := Option.isSome_iff_exists.mp husual
  cases hp : u.port with
  | none => exact ⟨port, by simp only [Url.dialPort?, hp, hport]; rfl⟩
  | some p => exact ⟨p, by simp only [Url.dialPort?, hp]; rfl⟩

/-- Every run of a request to a checked URL is one of those listed. -/
theorem run_send (n : Network) (log : Log) {r : Request} (hr : checkUrl r.url = .ok ()) :
    ∃ h out, Sent n log r h out ∧ (send n r).run log = (out, log ++ h.events) := by
  obtain ⟨hweb, host, hhost, hpublic⟩ := of_checkUrl hr
  obtain ⟨port, hport⟩ := exists_dialPort hweb
  cases host with
  | name name =>
    cases happ : Guard.approve name (n.told log name) with
    | ok addresses => exact run_send_allowed hhost hport (.resolved happ)
    | error fault =>
      refine ⟨_, _, .refused hhost happ, ?_⟩
      simp only [send, hhost, hport, Action.run_bind, run_addressesOf_name, happ, Hop.events,
        Hop.lookups, List.map_nil, Option.map_none, Option.toList_none, List.append_nil]
      rfl
  | v4 ip => exact run_send_allowed hhost hport (.literal rfl)
  | v6 ip => exact run_send_allowed hhost hport (.literal rfl)

end Egress
end MediaPerimeter.Net
