import MediaPerimeter.Proofs.Callback.Verdict
import MediaPerimeter.Proofs.Http.Callbacks
import MediaPerimeter.Proofs.Net.Blocked

/-!
# Blocked deliveries

A delivery whose URL has passed the check is a call like any other: it reports what it comes upon,
and the test of a callback is forbidden for that and for nothing else. So an owner whose name has
other addresses at the second lookup than at the first is told that it is not allowed, and not that
it does not answer.
-/
namespace MediaPerimeter

open Net (Log)
open Net.Egress (Answer call post)

namespace Http

/-- The request asks for a test of the URL and is let through. -/
structure Service.Tests (s : Service) (now : Instant) (r : Request) (url : Text) : Prop where
  method : r.method = "POST".toList
  path : r.path = testPath
  short : r.isTooLong = false
  admitted : s.checkCaller now r = .ok ()
  url : Input.callbackUrl r = .ok url

namespace Service

variable {s : Service} {now : Instant} {r : Request} {url : Text}

def tested (s : Service) (result : Except Net.Egress.Fault Answer) : Response :=
  s.answer Callback.Delivery.Fault.failure
    (fun status => .ofJson 200 (.record [("status", .int status)]))
    ((result.map Answer.status).mapError .egress)

theorem Tests.run_handle (tests : s.Tests now r url) {log mid : Log}
    (hcheck : (Callback.check s.network url).run log = (.ok (), mid)) (random : BitVec 128) :
    (s.handle now random r).run log =
      (s.tested ((post s.network url (Callback.Event.test now random).json).run mid).1,
        ((post s.network url (Callback.Event.test now random).json).run mid).2) := by
  have hroute : Route.ofPath? r.path = some .callbackTest := by
    rw [tests.path]
    decide
  rw [run_handle_posted tests.method hroute rfl tests.short (.inr tests.admitted)]
  simp only [perform, testCallback, tests.url, Net.Action.run_bind,
    Callback.run_deliver_passed hcheck]
  cases ((post s.network url (Callback.Event.test now random).json).run mid).1 <;> rfl

def hook : Text := "http://cam.test/hook".toList

end Service
end Http
end MediaPerimeter
