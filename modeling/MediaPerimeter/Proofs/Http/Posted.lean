import MediaPerimeter.Proofs.Http.Protected
import MediaPerimeter.Proofs.Json.Written

/-!
# Posted records

A request that posts a record of one text is read as that text, unless it does not declare JSON or
is longer than it declares. Nothing is added to the answer for one who posts where that can be done.
-/
namespace MediaPerimeter.Http

open Json Json.Read Outcome

namespace Input

variable {title name : String} {rule : Rule Text} {t t' : Text} {r : Request}
variable {members : List (Text × Bytes)} {body v : Bytes}

/-- A record of one text is read from the only member with its name, whatever else there is. -/
theorem document_of_object (hname : rule.name = name.toList) (htakes : Takes rule v fun _ => t)
    (hobject : IsObject body members) (hvalues : valuesOf name members = [v]) :
    document (Json.Read.record title [rule] []) body = .ok t := by
  have hcollects := (collects_of_valuesOf hname htakes members [] []).2 hvalues List.not_mem_nil
  refine document_object hobject hcollects ?_
  intro other hother _
  rw [List.mem_singleton.mp hother, hname]
  exact List.mem_cons_self

theorem readField_of_document (hjson : r.hasJson = true) (hlength : r.body.length ≤ r.bodyLimit)
    (h : document (Json.Read.record title [rule] []) r.body = .ok t) :
    readField title rule r = .ok t := by
  rw [readField, read, hjson, if_neg (by decide), if_neg (Nat.not_lt.mpr hlength), h]
  rfl

theorem document_field (hname : rule.name = name.toList)
    (htakes : Takes rule (Json.string t).bytes fun _ => t) :
    document (Json.Read.record title [rule] []) (Json.record [(name, .string t)]).bytes = .ok t := by
  obtain ⟨hobject, hvalues⟩ := isObject_text name t
  exact document_of_object hname htakes hobject hvalues

theorem readField_eq (hname : rule.name = name.toList)
    (htakes : Takes rule (Json.string t).bytes fun _ => t)
    (hbody : r.body = (Json.record [(name, .string t)]).bytes) (hjson : r.hasJson = true)
    (hlength : r.body.length ≤ r.bodyLimit) : readField title rule r = .ok t := by
  refine readField_of_document hjson hlength ?_
  rw [hbody]
  exact document_field hname htakes

/-- Nothing else is read. -/
theorem eq_of_readField (hname : rule.name = name.toList)
    (htakes : Takes rule (Json.string t).bytes fun _ => t)
    (hbody : r.body = (Json.record [(name, .string t)]).bytes)
    (h : readField title rule r = .ok t') : t' = t := by
  rw [readField, read] at h
  split at h
  · cases h
  split at h
  · cases h
  rw [hbody, document_field hname htakes] at h
  cases h
  rfl

end Input

theorem Route.hasMethod_post {route : Route} (h : route.isAsked = false) :
    route.hasMethod "POST".toList = true := by
  rw [hasMethod, methods, h]
  decide

namespace Service

variable {s : Service} {now : Instant} {r : Request} {route : Route}

theorem finish_posted (hpost : r.method = "POST".toList) (hposted : route.isAsked = false)
    (response : Response) : finish r (some route) response = response := by
  have hmethod : route.hasMethod r.method = true := hpost ▸ Route.hasMethod_post hposted
  have hhead : r.isHead = false := by
    rw [Request.isHead, hpost]
    decide
  rw [finish, hhead, hmethod]
  rfl

theorem dispatch_posted (hpost : r.method = "POST".toList) (hposted : route.isAsked = false)
    (now : Instant) (random : BitVec 128) :
    s.dispatch now random r (some route) = s.perform now random r route := by
  rw [dispatch, hpost, if_pos (Route.hasMethod_post hposted)]

/-- A post is answered by its route alone once it has passed what stands in front. -/
theorem run_handle_posted (hpost : r.method = "POST".toList)
    (hroute : Route.ofPath? r.path = some route) (hposted : route.isAsked = false)
    (hshort : r.isTooLong = false)
    (hopen : route.isProtected = false ∨ s.checkCaller now r = .ok ()) (random : BitVec 128)
    (log : Net.Log) :
    (s.handle now random r).run log = (s.perform now random r route).run log := by
  have hrespond : s.respond now random r (some route) = s.perform now random r route := by
    rw [← dispatch_posted hpost hposted]
    cases hprotected : route.isProtected with
    | false => exact respond_open hshort hprotected random
    | true =>
      rcases hopen with hopen | hadmitted
      · rw [hprotected] at hopen
        cases hopen
      · exact respond_admitted hshort hprotected hadmitted random
  rw [run_handle hroute, hrespond, finish_posted hpost hposted]
  rfl

theorem run_handle_tooLong (hpost : r.method = "POST".toList)
    (hroute : Route.ofPath? r.path = some route) (hposted : route.isAsked = false)
    (hlong : r.isTooLong = true) (random : BitVec 128) (log : Net.Log) :
    (s.handle now random r).run log = (.plain 413 "length limit exceeded", log) := by
  rw [run_handle hroute, run_respond_tooLong hlong, finish_posted hpost hposted]

end Service
end MediaPerimeter.Http
