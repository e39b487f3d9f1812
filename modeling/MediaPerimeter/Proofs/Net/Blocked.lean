import MediaPerimeter.Proofs.Net.Trail
import MediaPerimeter.Proofs.Url.Names

/-!
# Blocked destinations

A call can come upon an address that is not public in three ways: its own URL names it, a name has it
among its addresses, or an answer redirects to a URL that names it. Whichever comes first ends the
call. Nothing is done after it, and the result tells the address with its class. No other call has a
result of this kind.
-/
namespace MediaPerimeter.Net

open Egress

def Egress.NamesInside (t : Text) (a : Address) : Prop :=
  ∃ u host, Url.read t = .ok u ∧ u.isWeb = true ∧ u.host = some host ∧ host.address? = some a ∧
    a.isPublic = false

/-- What is done after what has been seen brings up an address that is not public. For a lookup it is
the first of that kind in the answer. The answer to a request may redirect to it, if fewer redirects
than `left` have been followed; a location that is no reference redirects nowhere. -/
inductive Reveals (n : Network) (left : Nat) (log seen : Log) : Event → Address → Prop
  | told {name answer a} (h : answer.find? (!·.isPublic) = some a) :
      Reveals n left log seen (.lookup name (.ok answer)) a
  | led {r answer next a} (hleft : seen.requests.length < left)
      (hreply : n.reply (Log.requests (log ++ seen)).length = .response answer)
      (leads : redirection? r answer = some next) (h : NamesInside next a) :
      Reveals n left log seen (.request r) a

/-- The result tells what was brought up on the way, which ended it, and nothing else. -/
structure Tells (n : Network) (left : Nat) (log new : Log) (result : Except Fault Answer) : Prop where
  met : ∀ seen e later a, new = seen ++ e :: later → Reveals n left log seen e a →
    result = .error (.unsafeDestination ⟨a.reach, a.text⟩) ∧ later = []
  only : ∀ v, result = .error (.unsafeDestination v) → ∃ seen e a,
    v = ⟨a.reach, a.text⟩ ∧ new = seen ++ [e] ∧ Reveals n left log seen e a

variable {n : Network} {log : Log} {left : Nat} {r : Request}

/-- What comes after a hop is seen as part of the whole. -/
theorem reveals_append_iff {past seen : Log} {e : Event} {a : Address} :
    Reveals n (left + past.requests.length) log (past ++ seen) e a ↔
      Reveals n left (log ++ past) seen e a := by
  have hlength : (Log.requests (past ++ seen)).length < left + past.requests.length ↔
      seen.requests.length < left := by
    rw [requests_append, List.length_append]
    omega
  constructor
  · rintro (h | ⟨hleft, hreply, leads, h⟩)
    · exact .told h
    · exact .led (hlength.mp hleft) (by rwa [List.append_assoc]) leads h
  · rintro (h | ⟨hleft, hreply, leads, h⟩)
    · exact .told h
    · exact .led (hlength.mpr hleft) (by rwa [← List.append_assoc]) leads h

theorem Egress.checkUrl_of_namesInside {u : Url} {host : Url.Host} {a : Address}
    (hweb : u.isWeb = true) (hhost : u.host = some host) (ha : host.address? = some a)
    (hpublic : a.isPublic = false) :
    checkUrl u = .error (.unsafeDestination ⟨a.reach, a.text⟩) := by
  rw [checkUrl, if_pos hweb, hhost]
  dsimp only
  rw [ha, Option.map_some, Address.check_of_not_isPublic hpublic]

theorem Egress.checkUrl_eq_iff {t : Text} {v : UnsafeAddress} :
    (∃ u, Url.read t = .ok u ∧ checkUrl u = .error (.unsafeDestination v)) ↔
      ∃ a, v = ⟨a.reach, a.text⟩ ∧ NamesInside t a := by
  constructor
  · rintro ⟨u, hread, hcheck⟩
    unfold checkUrl at hcheck
    split at hcheck
    · rename_i hweb
      split at hcheck
      · cases hcheck
      · rename_i host hhost
        split at hcheck
        · rename_i w hw
          cases hcheck
          obtain ⟨a, ha, hbad⟩ := Option.map_eq_some_iff.mp hw
          cases hpublic : a.isPublic with
          | true =>
            rw [Address.check_eq_ok_iff.mpr hpublic] at hbad
            cases hbad
          | false =>
            rw [Address.check_of_not_isPublic hpublic] at hbad
            cases hbad
            exact ⟨a, rfl, u, host, hread, hweb, hhost, ha, hpublic⟩
        · cases hcheck
    · cases hcheck
  · rintro ⟨a, rfl, u, host, hread, hweb, hhost, ha, hpublic⟩
    exact ⟨u, hread, checkUrl_of_namesInside hweb hhost ha hpublic⟩

theorem Egress.checkHop_eq_iff {first t : Text} {v : UnsafeAddress} :
    checkHop first r t = .error (.unsafeDestination v) ↔
      ∃ a, v = ⟨a.reach, a.text⟩ ∧ NamesInside t a := by
  rw [← checkUrl_eq_iff, checkHop]
  cases Url.read t with
  | error f => simp
  | ok u =>
    cases hcheck : checkUrl u with
    | ok _ => simp [hcheck]
    | error f => cases f <;> simp [hcheck]

theorem Guard.approve_eq_iff {name : Text} {told : Told} {v : UnsafeAddress} :
    approve name told = .error (.unsafeAddress v) ↔
      ∃ as a, told = .ok as ∧ as.find? (!·.isPublic) = some a ∧ v = ⟨a.reach, a.text⟩ := by
  match told with
  | .error text => simp [approve]
  | .ok [] => simp [approve]
  | .ok (b :: rest) =>
    dsimp only [approve]
    cases hcheck : Address.checkAll (b :: rest) with
    | ok _ =>
      have hpublic := Address.checkAll_eq_ok_iff.mp hcheck
      have hnone : (b :: rest).find? (!·.isPublic) = none :=
        List.find?_eq_none.mpr fun a ha => by simp [hpublic a ha]
      simp [hnone]
    | error w =>
      obtain ⟨a, ha, rfl⟩ := Address.checkAll_eq_error_iff.mp hcheck
      simp [ha, eq_comm]

inductive Quiet : Event → Prop
  | dialed (e : Endpoint) : Quiet (.dial e)
  | told {name : Text} {answer : List Address} (h : ∀ a ∈ answer, a.isPublic = true) :
      Quiet (.lookup name (.ok answer))

theorem Quiet.not_reveals {seen : Log} {e : Event} {a : Address} (h : Quiet e) :
    ¬ Reveals n left log seen e a := by
  rintro (hfind | -)
  · cases h with
    | told hpublic =>
      have hinside := List.find?_some hfind
      simp [hpublic _ (List.mem_of_find?_eq_some hfind)] at hinside
  · cases h

theorem requests_of_quiet {es : Log} (h : ∀ e ∈ es, Quiet e) : es.requests = [] := by
  refine List.filterMap_eq_nil_iff.mpr fun e he => ?_
  cases h e he <;> rfl

namespace Egress

def Plain (u : Url) : Prop :=
  ∀ name, u.host = some (.name name) → Address.ofText? name = none

variable {h : Hop} {out : Except SendFault Response}

theorem outcome_ne (reply : Reply) (v : UnsafeAddress) :
    outcome reply ≠ .error (.unsafeDestination v) := by
  cases reply <;> simp [outcome]

theorem failure?_ne {handshake : Handshake} {f : SendFault} (v : UnsafeAddress)
    (h : failure? handshake = some f) : f ≠ .unsafeDestination v := by
  rintro rfl
  cases handshake <;> cases h

theorem Allowed.quiet {host : Url.Host} {told : Option Told} {addresses : List Address}
    (allowed : Allowed n log host told addresses) (hhost : r.url.host = some host)
    (es : List Endpoint) (reply : Option Reply) :
    ∀ e ∈ (⟨r, told, es, reply⟩ : Hop).lookups ++ es.map Event.dial, Quiet e := by
  intro e he
  rcases List.mem_append.mp he with he | he
  · cases allowed with
    | literal ha =>
      cases host with
      | name => cases ha
      | v4 | v6 =>
        simp only [Hop.lookups, hhost] at he
        cases he
    | resolved happ =>
      obtain ⟨htold, hpublic⟩ := Guard.eq_of_approve happ
      simp only [Hop.lookups, hhost, lookedUp, htold] at he
      split at he
      · cases he
      · obtain rfl := List.mem_singleton.mp he
        exact .told fun a ha => Address.check_eq_ok_iff.mp (hpublic a ha)
  · obtain ⟨d, -, rfl⟩ := List.mem_map.mp he
    exact .dialed d

/-- A hop is over when its lookup is refused, or it brings up nothing before its request. -/
theorem Sent.events_cases (sent : Sent n log r h out) (plain : Plain r.url) :
    (∃ name told fault, h.events = [.lookup name told] ∧
      Guard.approve name told = .error fault ∧ out = .error (refusal fault)) ∨
    ∃ before, (∀ e ∈ before, Quiet e) ∧
      ((h.events = before ∧ ∃ f, out = .error f ∧ ∀ v, f ≠ .unsafeDestination v) ∨
      (h.events = before ++ [.request r] ∧ out = outcome (n.reply log.requests.length))) := by
  cases sent with
  | refused hhost bad =>
    refine .inl ⟨_, _, _, ?_, bad, rfl⟩
    simp [Hop.events, Hop.lookups, hhost, lookedUp, plain _ hhost]
  | unreached hhost hport allowed dead =>
    exact .inr ⟨_, allowed.quiet hhost _ none, .inl ⟨List.append_nil _, _, rfl, by simp⟩⟩
  | unsecured hhost hport allowed alive failed =>
    exact .inr ⟨_, allowed.quiet hhost _ none,
      .inl ⟨List.append_nil _, _, rfl, fun v => failure?_ne v failed⟩⟩
  | asked hhost hport allowed alive hs =>
    exact .inr ⟨_, allowed.quiet hhost _ _, .inr ⟨rfl, rfl⟩⟩

/-- After the hop a call goes no further: its lookup was refused, or its answer redirects to where no
call must go. -/
inductive Bars (left : Nat) (r : Request) : Except SendFault Response → UnsafeAddress → Prop
  | refused (v : UnsafeAddress) : Bars left r (.error (.unsafeDestination v)) v
  | led {answer : Response} {next : Text} {a : Address} (hleft : 0 < left)
      (leads : redirection? r answer = some next) (h : NamesInside next a) :
      Bars left r (.ok answer) ⟨a.reach, a.text⟩

theorem Bars.checkHop_eq {answer : Response} {next : Text} {v : UnsafeAddress}
    (bars : Bars left r (.ok answer) v) (leads : redirection? r answer = some next) (first : Text) :
    checkHop first r next = .error (.unsafeDestination v) := by
  cases bars with
  | led _ leads' hinside =>
    cases leads.symm.trans leads'
    exact checkHop_eq_iff.mpr ⟨_, rfl, hinside⟩

/-- What a hop brings up comes last in it and bars the way. -/
theorem Sent.bars (sent : Sent n log r h out) (plain : Plain r.url) {seen later : Log} {e : Event}
    {a : Address} (hevents : h.events = seen ++ e :: later)
    (hreveals : Reveals n left log seen e a) :
    later = [] ∧ Bars left r out ⟨a.reach, a.text⟩ := by
  rcases sent.events_cases plain with ⟨name, answer, fault, hone, hbad, rfl⟩ |
    ⟨before, hquiet, ⟨hall, -⟩ | ⟨hall, rfl⟩⟩
  · obtain ⟨rfl, hrest⟩ := (List.append_eq_singleton_iff.mp (hevents.symm.trans hone)).resolve_right
      (by simp)
    cases hrest
    cases hreveals with
    | told hfind =>
      rw [Guard.approve_eq_iff.mpr ⟨_, _, rfl, hfind, rfl⟩] at hbad
      cases hbad
      exact ⟨rfl, .refused _⟩
  · rw [hall] at hevents
    subst hevents
    exact absurd hreveals (hquiet e (by simp)).not_reveals
  · rw [hall] at hevents
    rcases List.eq_nil_or_concat later with rfl | ⟨init, last, rfl⟩
    · obtain ⟨rfl, hrequest⟩ := List.append_inj' hevents rfl
      cases hrequest
      cases hreveals with
      | led hleft hreply leads hinside =>
        rw [requests_append, requests_of_quiet hquiet, List.append_nil] at hreply
        rw [hreply]
        exact ⟨rfl, .led (Nat.zero_lt_of_lt hleft) leads hinside⟩
    · rw [List.concat_eq_append, ← List.cons_append, ← List.append_assoc] at hevents
      obtain ⟨rfl, -⟩ := List.append_inj' hevents rfl
      exact absurd hreveals (hquiet e (by simp)).not_reveals

theorem Sent.exists_request {answer : Response} (sent : Sent n log r h (.ok answer))
    (plain : Plain r.url) :
    ∃ before, Log.requests before = [] ∧ h.events = before ++ [.request r] ∧
      n.reply log.requests.length = .response answer := by
  rcases sent.events_cases plain with ⟨name, answer, fault, hone, hbad, hout⟩ |
    ⟨before, hquiet, ⟨-, f, hout, -⟩ | ⟨hall, hout⟩⟩
  · cases hout
  · cases hout
  · exact ⟨before, requests_of_quiet hquiet, hall, outcome_eq_ok_iff.mp hout.symm⟩

/-- Nothing bars the way unless the hop brings it up. -/
theorem Bars.exists_reveals {v : UnsafeAddress} (bars : Bars left r out v)
    (sent : Sent n log r h out) (plain : Plain r.url) :
    ∃ seen e a, v = ⟨a.reach, a.text⟩ ∧ h.events = seen ++ [e] ∧ Reveals n left log seen e a := by
  cases bars with
  | refused v =>
    rcases sent.events_cases plain with ⟨name, answer, fault, hone, hbad, hout⟩ |
      ⟨before, hquiet, ⟨-, f, hout, hne⟩ | ⟨-, hout⟩⟩
    · cases fault with
      | lookupFailed | noAddress => cases hout
      | unsafeAddress w =>
        cases hout
        obtain ⟨as, a, rfl, hfind, rfl⟩ := Guard.approve_eq_iff.mp hbad
        exact ⟨[], _, a, rfl, hone, .told hfind⟩
    · cases hout
      exact absurd rfl (hne v)
    · exact absurd hout.symm (outcome_ne _ v)
  | @led answer next a hleft leads hinside =>
    obtain ⟨before, hnone, hevents, hreply⟩ := sent.exists_request plain
    refine ⟨before, _, a, rfl, hevents, .led ?_ ?_ leads hinside⟩
    · rwa [hnone]
    · rwa [requests_append, hnone, List.append_nil]

/-- A call that ends with the hop tells what the hop brought up, if its result is what bars the way. -/
theorem Sent.tells (sent : Sent n log r h out) (plain : Plain r.url) {result : Except Fault Answer}
    (hresult : ∀ v, result = .error (.unsafeDestination v) ↔ Bars left r out v) :
    Tells n left log ([h].flatMap Hop.events) result := by
  rw [List.flatMap_singleton]
  constructor
  · intro seen e later a hevents hreveals
    obtain ⟨hlater, hbars⟩ := sent.bars plain hevents hreveals
    exact ⟨(hresult _).mpr hbars, hlater⟩
  · intro v hv
    exact ((hresult v).mp hv).exists_reveals sent plain

theorem plain_of_read {t : Text} {u : Url} (h : Url.read t = .ok u) (hcheck : checkUrl u = .ok ()) :
    Plain u :=
  fun _ hhost => Url.ofText?_of_name h (of_checkUrl hcheck).1 hhost

theorem plain_redirected {first next : Text} {u : Url} (h : checkHop first r next = .ok u)
    (status : Nat) : Plain (redirected r status u).url := by
  rw [redirected_url]
  exact plain_of_read (checkUrl_of_checkHop h).1 (checkUrl_of_checkHop h).2

/-- A hop whose answer is followed brings up nothing, and what comes after it is met later. -/
theorem Sent.tells_onward {answer : Response} {first next : Text} {u : Url} {new : Log}
    {result : Except Fault Answer} (sent : Sent n log r h (.ok answer)) (plain : Plain r.url)
    (leads : redirection? r answer = some next) (good : checkHop first r next = .ok u)
    (tells : Tells n left (log ++ h.events) new result) :
    Tells n (left + 1) log (h.events ++ new) result := by
  obtain ⟨before, hnone, hevents, -⟩ := sent.exists_request plain
  have hone : left + 1 = left + h.events.requests.length := by
    rw [hevents, requests_append, hnone]
    rfl
  have hlater {seen e later a} (hnew : new = seen ++ e :: later)
      (hreveals : Reveals n (left + 1) log (h.events ++ seen) e a) :
      result = .error (.unsafeDestination ⟨a.reach, a.text⟩) ∧ later = [] := by
    rw [hone] at hreveals
    exact tells.met seen e later a hnew (reveals_append_iff.mp hreveals)
  constructor
  · intro seen e later a hall hreveals
    rcases List.append_eq_append_iff.mp hall with ⟨seen', rfl, hnew⟩ | ⟨during, hhop, hnew⟩
    · exact hlater hnew hreveals
    · cases during with
      | nil =>
        rw [List.append_nil] at hhop
        refine hlater (show _ = [] ++ e :: later from hnew.symm) ?_
        rwa [hhop, List.append_nil]
      | cons e' during =>
        cases hnew
        obtain ⟨-, hbars⟩ := sent.bars plain hhop hreveals
        cases good.symm.trans (hbars.checkHop_eq leads _)
  · intro v hv
    obtain ⟨seen, e, a, rfl, hnew, hreveals⟩ := tells.only v hv
    refine ⟨h.events ++ seen, e, a, rfl, by rw [hnew, List.append_assoc], ?_⟩
    rw [hone]
    exact reveals_append_iff.mpr hreveals

theorem Trail.tells {first : Text} {hops : List Hop} {result : Except Fault Answer}
    (trail : Trail n first left log r hops result) (plain : Plain r.url) :
    Tells n left log (hops.flatMap Hop.events) result := by
  induction trail with
  | @broken left log r h f sent =>
    refine sent.tells plain fun v => ⟨fun hv => ?_, ?_⟩
    · cases f with
      | timeout | failed => cases hv
      | unsafeDestination w =>
        cases hv
        exact .refused v
    · rintro ⟨⟩
      rfl
  | answered sent stays =>
    refine sent.tells plain fun v => ⟨nofun, ?_⟩
    rintro (- | ⟨-, leads⟩)
    cases stays.symm.trans leads
  | exhausted sent leads =>
    refine sent.tells plain fun v => ⟨nofun, ?_⟩
    rintro (- | ⟨hleft⟩)
    cases hleft
  | barred sent leads bad =>
    refine sent.tells plain fun v => ⟨fun hv => ?_, ?_⟩
    · cases hv
      obtain ⟨a, rfl, hinside⟩ := checkHop_eq_iff.mp bad
      exact .led (Nat.succ_pos _) leads hinside
    · intro hbars
      cases bad.symm.trans (hbars.checkHop_eq leads _)
      rfl
  | onward sent leads good _ ih =>
    rw [List.flatMap_cons]
    exact sent.tells_onward plain leads good (ih (plain_redirected good _))

variable {method : Method} {body : Option Json} {raw : Text}

end Egress
end MediaPerimeter.Net
