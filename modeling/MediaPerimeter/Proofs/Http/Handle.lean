import MediaPerimeter.Http.Gateway
import MediaPerimeter.Proofs.Net.Hop

/-!
# How a request is handled

A request is answered by the stages that it passes: the limit on bodies, then its route. What is
added to the answer at the end never changes the status.
-/
namespace MediaPerimeter.Http

open Net (Log)

def offline : Net.Network where
  addresses _ _ := .error "no such name"
  accepts _ := false
  secures _ := .refused
  reply _ := .hangUp

theorem Request.isTooLong_iff {r : Request} :
    r.isTooLong = true ↔ ∃ n, r.declaredLength? = some n ∧ maxBody < n := by
  simp [isTooLong, Option.any_eq_true]

theorem Route.hasMethod_get {route : Route} (h : route.isAsked = true) :
    route.hasMethod "GET".toList = true := by
  rw [hasMethod, methods, if_pos h]
  decide

namespace Service

variable {s : Service} {now : Instant} {r : Request} {route : Route}

theorem status_fail_ne_ok (f : Failure) : (s.fail f).status ≠ 200 := by
  cases f <;> simp [fail, Failure.response, Response.ofJson, Failure.status]

theorem status_finish (r : Request) (route : Option Route) (response : Response) :
    (finish r route response).status = response.status := by
  cases route with
  | none =>
    unfold finish
    cases r.isHead <;> rfl
  | some route =>
    unfold finish
    cases r.isHead <;> cases hmethod : route.hasMethod r.method <;> simp [hmethod]

theorem run_handle {route : Option Route} (hroute : Route.ofPath? r.path = route)
    (random : BitVec 128) (log : Log) :
    (s.handle now random r).run log =
      (finish r route ((s.respond now random r route).run log).1,
        ((s.respond now random r route).run log).2) := by
  subst hroute
  rfl

theorem run_respond_tooLong (h : r.isTooLong = true) (s : Service) (now : Instant)
    (random : BitVec 128) (route : Option Route) (log : Log) :
    (s.respond now random r route).run log = (.plain 413 "length limit exceeded", log) := by
  rw [respond, if_pos h]
  rfl

/-- A route that everyone may take is dispatched to unless the body is too long. -/
theorem respond_open (h : r.isTooLong = false) (hroute : route.isProtected = false)
    (random : BitVec 128) :
    s.respond now random r (some route) = s.dispatch now random r (some route) := by
  rw [respond, h, needsCredential, hroute]
  rfl

/-- Nothing is added to the answer for one who asks for what can be asked for. -/
theorem finish_asked (hget : r.method = "GET".toList) (hasked : route.isAsked = true)
    (response : Response) : finish r (some route) response = response := by
  have hmethod : route.hasMethod r.method = true := hget ▸ Route.hasMethod_get hasked
  have hhead : r.isHead = false := by
    rw [Request.isHead, hget]
    decide
  rw [finish, hhead, hmethod]
  rfl

theorem run_handle_asked (hget : r.method = "GET".toList) (hshort : r.isTooLong = false)
    (hroute : Route.ofPath? r.path = some route) (hasked : route.isAsked = true)
    (random : BitVec 128) (log : Log) :
    (s.handle now random r).run log = (s.perform now random r route).run log := by
  have hopen : route.isProtected = false := by cases route <;> first | rfl | cases hasked
  have hmethod : route.hasMethod r.method = true := hget ▸ Route.hasMethod_get hasked
  rw [run_handle hroute, respond_open hshort hopen, dispatch, if_pos hmethod,
    finish_asked hget hasked]
  rfl

end Service
end MediaPerimeter.Http
