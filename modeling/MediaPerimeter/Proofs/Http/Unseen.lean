import MediaPerimeter.Proofs.Http.Callbacks
import MediaPerimeter.Proofs.Net.Alike

/-!
# Inner addresses are not seen

A callback can be aimed at any name, so its answer must not tell what the name stands for inside. If
one address that is not public takes the place of another in what is looked up, then nobody notices:
not the caller, who gets the same response, and not the hosts outside, which are dialed and asked as
before.
-/
namespace MediaPerimeter

open Net

variable {n n' : Network}

namespace Callback

theorem approve_alike {told told' : Told} (h : SameAnswer told told') (host : Text) :
    Veiled (InvImage Eq Fault.failure) (approve host told) (approve host told') := by
  rcases h.eq_or_refused with rfl | ⟨a, as, b, bs, u, v, rfl, rfl, hu, hv⟩
  · exact .same _
  · simp only [approve, hu, hv]
    exact .refused rfl

theorem alike_check (hn : n.Alike n') (raw : Text) :
    Action.Alike (Veiled (InvImage Eq Fault.failure)) (check n raw) (check n' raw) := by
  unfold check
  cases hostOf raw with
  | error f => exact .pure (.same _)
  | ok host => exact (alike_lookup hn host).bind fun _ _ h => .pure (approve_alike h host)

/-- Deliveries come to the same failure, whichever of their lookups met the address. -/
theorem alike_deliver (hn : n.Alike n') (raw : Text) (e : Event) :
    Action.Alike (Veiled (InvImage Eq Delivery.Fault.failure)) (deliver n raw e)
      (deliver n' raw e) := by
  unfold deliver
  refine (alike_check hn raw).bind ?_
  rintro x y (_ | h)
  · rcases x with f | v
    · exact .pure (.same _)
    · refine (Egress.alike_call hn .post (some e.json) raw).bind ?_
      rintro x y (_ | ⟨u, v⟩)
      · rcases x with f | answer <;> exact .pure (.same _)
      · exact .pure (.refused rfl)
  · exact .pure (.refused h)

end Callback

namespace Http.Service

variable {s : Service}

theorem alike_checkCallback (hn : s.network.Alike n') (r : Request) :
    Action.Alike Eq (s.checkCallback r) (({ s with network := n' } : Service).checkCallback r) := by
  unfold checkCallback
  cases Input.callbackUrl r with
  | error f => exact .pure rfl
  | ok url =>
    refine (Callback.alike_check hn url).bind ?_
    rintro x y (_ | h)
    · exact .pure rfl
    · exact .pure (congrArg s.fail h)

theorem alike_testCallback (hn : s.network.Alike n') (now : Instant) (random : BitVec 128)
    (r : Request) : Action.Alike Eq (s.testCallback now random r)
      (({ s with network := n' } : Service).testCallback now random r) := by
  unfold testCallback
  cases Input.callbackUrl r with
  | error f => exact .pure rfl
  | ok url =>
    refine (Callback.alike_deliver hn url _).bind ?_
    rintro x y (_ | h)
    · exact .pure rfl
    · exact .pure (congrArg s.fail h)

theorem alike_perform (hn : s.network.Alike n') (now : Instant) (random : BitVec 128) (r : Request)
    (route : Route) : Action.Alike Eq (s.perform now random r route)
      (({ s with network := n' } : Service).perform now random r route) := by
  cases route with
  | callbackCheck => exact alike_checkCallback hn r
  | callbackTest => exact alike_testCallback hn now random r
  | _ => exact .pure rfl

theorem alike_dispatch (hn : s.network.Alike n') (now : Instant) (random : BitVec 128) (r : Request)
    (route : Option Route) : Action.Alike Eq (s.dispatch now random r route)
      (({ s with network := n' } : Service).dispatch now random r route) := by
  cases route with
  | none => exact .pure rfl
  | some route =>
    unfold dispatch
    dsimp only
    cases route.hasMethod r.method with
    | true => exact alike_perform hn now random r route
    | false => exact .pure rfl

theorem alike_respond (hn : s.network.Alike n') (now : Instant) (random : BitVec 128) (r : Request)
    (route : Option Route) : Action.Alike Eq (s.respond now random r route)
      (({ s with network := n' } : Service).respond now random r route) := by
  -- The credential is checked without a look at the network.
  have hcaller : ({ s with network := n' } : Service).checkCaller now r = s.checkCaller now r := rfl
  unfold respond
  rw [hcaller]
  cases r.isTooLong with
  | true => exact .pure rfl
  | false =>
    cases needsCredential route with
    | false => exact alike_dispatch hn now random r route
    | true =>
      cases s.checkCaller now r with
      | error f => exact .pure rfl
      | ok v => exact alike_dispatch hn now random r route

theorem alike_handle (hn : s.network.Alike n') (now : Instant) (random : BitVec 128) (r : Request) :
    Action.Alike Eq (s.handle now random r)
      (({ s with network := n' } : Service).handle now random r) := by
  unfold handle
  refine (alike_respond hn now random r _).bind ?_
  rintro response _ rfl
  exact .pure rfl

/-- Where the table of names differs only in addresses that are not public, every request has the
same response, and the same endpoints are dialed and asked for the same. -/
theorem handle_unseen {s : Service} {table : Text → Nat → Told}
    (h : ∀ name count, SameAnswer (s.network.addresses name count) (table name count))
    (now : Instant) (random : BitVec 128) (r : Request) (log : Log) :
    let run := (s.handle now random r).run log
    let run' := (({ s with network := { s.network with addresses := table } } : Service).handle
      now random r).run log
    run'.1 = run.1 ∧ run'.2.dials = run.2.dials ∧ run'.2.requests = run.2.requests := by
  have hn : s.network.Alike { s.network with addresses := table } := ⟨h, rfl, rfl, rfl⟩
  obtain ⟨hresponse, hafter⟩ := alike_handle hn now random r log log (.refl log)
  exact ⟨hresponse.symm, hafter.dials_eq, hafter.requests_eq⟩

def besides (inner : Address) : Service where
  settings := relay.settings
  environment := relay.environment
  files := relay.files
  network := { relay.network with addresses _ _ := .ok [.v4 ⟨8, 8, 8, 8⟩, inner] }

/-- An address of a private net is not told from a loopback address in the form of version 6. -/
theorem handle_unseen_of_private :
    let r := posted testPath "http://inner.example/".toList
    let run := ((besides (.v4 ⟨10, 0, 0, 8⟩)).handle ⟨0, 0⟩ 0 r).run []
    let run' := ((besides (.v6 ⟨0, 0, 0, 0, 0, 0xffff, 0x7f00, 1⟩)).handle ⟨0, 0⟩ 0 r).run []
    run'.1 = run.1 ∧ run'.2.dials = run.2.dials ∧ run'.2.requests = run.2.requests := by
  have hinner : SameAddress (.v4 ⟨10, 0, 0, 8⟩) (.v6 ⟨0, 0, 0, 0, 0, 0xffff, 0x7f00, 1⟩) :=
    .inr ⟨by decide, by decide⟩
  exact handle_unseen (s := besides (.v4 ⟨10, 0, 0, 8⟩))
    (fun _ _ => .told (.cons (.refl _) (.cons hinner .nil))) ⟨0, 0⟩ 0 _ []

end Http.Service
end MediaPerimeter
