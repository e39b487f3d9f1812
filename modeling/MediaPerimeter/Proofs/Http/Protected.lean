import Mathlib.Data.List.TakeWhile
import MediaPerimeter.Proofs.Http.Handle
import MediaPerimeter.Proofs.Outcome
import MediaPerimeter.Proofs.Url.Parts

/-!
# Protected paths are closed

Nothing behind the check of the credential answers 401, and nothing happens in front of it: a caller
who is refused reaches neither the network nor the body of its own request, and cannot tell from the
answer which secret refused it.
-/
namespace MediaPerimeter.Http

open Net (Action Log)
open Outcome

def protectedPaths : List Text :=
  ["/terraform/v1/ffmpeg/targets/check", "/terraform/v1/hooks/callback/check",
    "/terraform/v1/hooks/callback/test"].map String.toList

theorem isProtected_of_mem {path : Text} (h : path ∈ protectedPaths) :
    ∃ route, Route.ofPath? path = some route ∧ route.isProtected = true := by
  simp only [protectedPaths, List.map_cons, List.map_nil, List.mem_cons, List.not_mem_nil,
    or_false] at h
  rcases h with rfl | rfl | rfl
  · exact ⟨.targetCheck, by decide, rfl⟩
  · exact ⟨.callbackCheck, by decide, rfl⟩
  · exact ⟨.callbackTest, by decide, rfl⟩

namespace Service

section Behind

variable {s : Service} {now : Instant} {random : BitVec 128} {r : Request} {log : Log}

theorem status_fail_ne {f : Failure} (h : ∀ m, f ≠ .unauthorized m) : (s.fail f).status ≠ 401 := by
  cases f with
  | unauthorized m => exact absurd rfl (h m)
  | _ => simp [fail, Failure.response, Response.ofJson, Failure.status]

theorem status_answer_ne {ε α : Type} {failure : ε → Failure} {response : α → Response}
    {result : Except ε α} (hfail : ∀ f, result = .error f → ∀ m, failure f ≠ .unauthorized m)
    (hok : ∀ a, result = .ok a → (response a).status ≠ 401) :
    (s.answer failure response result).status ≠ 401 := by
  cases result with
  | ok a => exact hok a rfl
  | error f => exact status_fail_ne (hfail f rfl)

theorem egress_failure_ne (f : Net.Egress.Fault) (m : String) : f.failure ≠ .unauthorized m := by
  cases f <;> nofun

theorem delivery_failure_ne (f : Callback.Delivery.Fault) (m : String) :
    f.failure ≠ .unauthorized m := by
  cases f with
  | rejected f => nofun
  | egress f => exact egress_failure_ne f m

theorem checkTarget_failure_ne {f : Failure} (h : checkTarget r = .error f) (m : String) :
    f ≠ .unauthorized m := by
  simp only [checkTarget, bind_eq_error_iff, mapError_eq_error_iff] at h
  rcases h with ⟨_, -, rfl⟩ | ⟨_, -, ⟨_, -, rfl⟩ | ⟨_, -, ⟨_, -, rfl⟩ | ⟨_, -, h⟩⟩⟩
  · nofun
  · nofun
  · nofun
  · cases h

theorem checkTarget_status {response : Response} (h : checkTarget r = .ok response) :
    response.status = 200 := by
  simp only [checkTarget, bind_eq_ok_iff] at h
  obtain ⟨_, -, _, -, _, -, h⟩ := h
  cases h
  rfl

/-- The action of a protected route never answers that the caller is unknown. -/
theorem status_perform_ne {route : Route} (hroute : route.isProtected = true) :
    ((s.perform now random r route).run log).1.status ≠ 401 := by
  cases route with
  | health | recordSegment | helloVoice | login | token => cases hroute
  | targetCheck =>
    refine status_answer_ne (fun f h => checkTarget_failure_ne h) fun a h => ?_
    rw [id, checkTarget_status h]
    decide
  | callbackCheck =>
    simp only [perform, checkCallback]
    cases Input.callbackUrl r with
    | error f => exact status_fail_ne nofun
    | ok url => exact status_answer_ne (fun _ _ => nofun) fun _ _ => by decide
  | callbackTest =>
    simp only [perform, testCallback]
    cases Input.callbackUrl r with
    | error f => exact status_fail_ne nofun
    | ok url =>
      exact status_answer_ne (fun f _ => delivery_failure_ne f) fun _ _ => (by decide : 200 ≠ 401)

theorem status_dispatch_ne {route : Route} (hroute : route.isProtected = true) :
    ((s.dispatch now random r (some route)).run log).1.status ≠ 401 := by
  simp only [dispatch]
  split
  · exact status_perform_ne hroute
  · exact (by decide : 405 ≠ 401)

end Behind

/-- The credential that comes with the request is refused. -/
def Rejects (s : Service) (now : Instant) (r : Request) : Prop :=
  ∃ f, Credential.authenticate s.settings.apiSecret (Form.single? "token" r.query)
    (r.values "authorization") now.secs = .error f

section Front

variable {s : Service} {now : Instant} {r : Request}

/-- Two secrets refuse a credential with the same fault, unless one of them is none. -/
theorem fault_eq_of_authenticate {secret secret' : Text} {elsewhere : Option Text}
    {headers : Credential.Headers} {at₁ at₂ : Int} {f f' : Credential.Fault}
    (hempty : secret' = [] ↔ secret = [])
    (h : Credential.authenticate secret elsewhere headers at₁ = .error f)
    (h' : Credential.authenticate secret' elsewhere headers at₂ = .error f') : f' = f := by
  unfold Credential.authenticate at h h'
  by_cases hs : secret = []
  · rw [if_pos hs] at h
    rw [if_pos (hempty.mpr hs)] at h'
    cases h
    cases h'
    rfl
  · rw [if_neg hs] at h
    rw [if_neg (mt hempty.mp hs)] at h'
    cases hfind : Credential.find elsewhere headers with
    | error g =>
      simp only [hfind] at h h'
      cases h
      cases h'
      rfl
    | ok credential =>
      simp only [hfind] at h h'
      split at h
      · cases h
      · split at h'
        · cases h'
        · cases h
          cases h'
          rfl

variable {route : Route}

theorem run_respond_refused {f : Credential.Fault} (h : r.isTooLong = false)
    (hroute : route.isProtected = true) (hcheck : s.checkCaller now r = .error f)
    (random : BitVec 128) (log : Log) :
    (s.respond now random r (some route)).run log = (s.fail f.failure, log) := by
  rw [respond, h, needsCredential, hroute, hcheck]
  rfl

theorem respond_admitted (h : r.isTooLong = false) (hroute : route.isProtected = true)
    (hcheck : s.checkCaller now r = .ok ()) (random : BitVec 128) :
    s.respond now random r (some route) = s.dispatch now random r (some route) := by
  rw [respond, h, needsCredential, hroute, hcheck]
  rfl

end Front

/-- A request to a protected path that declares too long a body is answered 413. Any other is
answered 401 exactly if its credential is refused; then nothing is looked up, dialed or sent, and the
answer depends neither on the body nor on the secret, the other settings or the files of a service,
unless one of two services has no secret at all. -/
theorem handle_protected {s : Service} {now : Instant} {random : BitVec 128} {r : Request}
    {log after : Log} {response : Response} (hpath : r.path ∈ protectedPaths)
    (hrun : (s.handle now random r).run log = (response, after)) :
    ((∃ n, r.declaredLength? = some n ∧ maxBody < n) → response.status = 413 ∧ after = log) ∧
    ((∀ n, r.declaredLength? = some n → n ≤ maxBody) →
      (response.status = 401 ↔ s.Rejects now r) ∧
      (s.Rejects now r → after = log ∧
        ∀ (s' : Service) (now' : Instant) (random' : BitVec 128) (body : Bytes) (log' : Log),
          s'.environment = s.environment →
          (s'.settings.apiSecret = [] ↔ s.settings.apiSecret = []) → s'.Rejects now' r →
          ((s'.handle now' random' { r with body }).run log').1 = response)) := by
  obtain ⟨route, hroute, hprotected⟩ := isProtected_of_mem hpath
  rw [run_handle hroute] at hrun
  constructor
  · intro hlong
    rw [run_respond_tooLong (Request.isTooLong_iff.mpr hlong)] at hrun
    cases hrun
    exact ⟨status_finish r _ _, rfl⟩
  · intro hshort
    have hlong : r.isTooLong = false := by
      rw [← Bool.not_eq_true, Request.isTooLong_iff]
      rintro ⟨n, hn, hlt⟩
      exact absurd (hshort n hn) (Nat.not_le.mpr hlt)
    cases hcheck : s.checkCaller now r with
    | ok v =>
      have hadmits : ¬ s.Rejects now r := fun ⟨f, hf⟩ => nomatch hcheck.symm.trans hf
      rw [respond_admitted hlong hprotected hcheck] at hrun
      have hstatus : response.status ≠ 401 := by
        cases hrun
        rw [status_finish]
        exact status_dispatch_ne hprotected
      exact ⟨iff_of_false hstatus hadmits, fun h => absurd h hadmits⟩
    | error f =>
      have hrejects : s.Rejects now r := ⟨f, hcheck⟩
      rw [run_respond_refused hlong hprotected hcheck] at hrun
      cases hrun
      refine ⟨iff_of_true (status_finish r _ _) hrejects, fun _ => ⟨rfl, ?_⟩⟩
      intro s' now' random' body log' henv hempty hrejects'
      obtain ⟨f', hcheck'⟩ := hrejects'
      cases fault_eq_of_authenticate hempty hcheck hcheck'
      -- Path, headers and query are those of the request, whatever its body.
      rw [run_handle (r := { r with body }) hroute,
        run_respond_refused (r := { r with body }) hlong hprotected hcheck', fail, fail, henv]
      rfl

def guarded : Service where
  settings := { apiSecret := "secret".toList }
  environment _ := none
  files := ⟨[], []⟩
  network := offline

def stranger (length : String) : Request where
  method := "POST".toList
  target := "/terraform/v1/hooks/callback/test?token=".toList
  headers := [("Content-Length".toList, Utf8.encode length.toList)]
  body := []

theorem divide_stranger (length : String) : Tail.divide (stranger length).target =
    ⟨"/terraform/v1/hooks/callback/test".toList, some "token=".toList, none⟩ :=
  Tail.divide_eq_iff.mpr ⟨rfl, by decide, by decide⟩

theorem stranger_path (length : String) : (stranger length).path ∈ protectedPaths := by
  rw [Request.path, divide_stranger]
  decide

theorem rejects_stranger (length : String) : guarded.Rejects ⟨0, 0⟩ (stranger length) := by
  have hsingle : Form.single? "token" "token=".toList = some [] := by decide +kernel
  have hquery : Form.single? "token" (stranger length).query = some [] := by
    rw [Request.query, divide_stranger]
    exact hsingle
  refine ⟨.noCredential, ?_⟩
  rw [hquery]
  rfl

theorem handle_protected_of_stranger :
    (stranger "65536").path ∈ protectedPaths ∧ guarded.Rejects ⟨0, 0⟩ (stranger "65536") ∧
      ((guarded.handle ⟨0, 0⟩ 0 (stranger "65536")).run []).1.status = 401 ∧
      ((guarded.handle ⟨0, 0⟩ 0 (stranger "65536")).run []).2 = [] := by
  have hshort : ∀ n, (stranger "65536").declaredLength? = some n → n ≤ maxBody := by
    have hlength : (stranger "65536").declaredLength? = some maxBody := rfl
    intro n hn
    exact Nat.le_of_eq (Option.some.inj (hn.symm.trans hlength))
  have hrun : (guarded.handle ⟨0, 0⟩ 0 (stranger "65536")).run [] =
    (((guarded.handle ⟨0, 0⟩ 0 (stranger "65536")).run []).1,
      ((guarded.handle ⟨0, 0⟩ 0 (stranger "65536")).run []).2) := rfl
  obtain ⟨-, hchecked⟩ := handle_protected (stranger_path "65536") hrun
  obtain ⟨hstatus, hlog⟩ := hchecked hshort
  have hrejects := rejects_stranger "65536"
  exact ⟨stranger_path "65536", hrejects, hstatus.mpr hrejects, (hlog hrejects).1⟩

/-- A length of 2⁶⁴ is no length that can be declared, so it is not found too long. -/
theorem exists_longer_not_refused : ¬ ∀ (s : Service) (now : Instant) (random : BitVec 128)
    (r : Request) (log : Log) (n : Nat), r.path ∈ protectedPaths →
      r.value? "content-length" = some (Utf8.encode (Decimal.text n)) → maxBody < n →
      ((s.handle now random r).run log).1.status = 413 := by
  intro hrefused
  let r := stranger "18446744073709551616"
  have hlength : r.value? "content-length" =
      some (Utf8.encode (Decimal.text 18446744073709551616)) := rfl
  have hstatus := hrefused guarded ⟨0, 0⟩ 0 r [] _ (stranger_path _) hlength (by decide)
  -- The length is none, so the credential is checked, and there is none either.
  have hshort : r.isTooLong = false := rfl
  obtain ⟨route, hroute, hprotected⟩ := isProtected_of_mem (stranger_path "18446744073709551616")
  obtain ⟨f, hrejects⟩ := rejects_stranger "18446744073709551616"
  have hcheck : guarded.checkCaller ⟨0, 0⟩ r = .error f := hrejects
  rw [run_handle hroute, run_respond_refused hshort hprotected hcheck, status_finish] at hstatus
  exact absurd hstatus (by decide : 401 ≠ 413)

end Service
end MediaPerimeter.Http
