import MediaPerimeter.Proofs.Callback.Verdict
import MediaPerimeter.Proofs.Url.HostNames

/-!
# The two gates in front of a name

The answer of a lookup is judged twice: when a callback URL is checked, and again when its host is
dialed. Each gate has its own faults for an answer that is missing or empty, but both let the same
answers pass, and both refuse the others for the same address.
-/
namespace MediaPerimeter.Callback

open Net (Log Network Guard.resolve Guard.approve)
open Url (IsHostName ofName frontPage)

variable {name ascii : Text} {n n' : Network} {log log' : Log}

theorem trim_ofName (name : Text) : (ofName name).trim = ofName name := by
  refine Text.trim_eq_self (fun c hc => ?_) fun c hc => ?_
  · cases hc
    decide
  · rw [Url.getLast?_ofName] at hc
    cases hc
    decide

theorem bareHost_frontPage (hdot : ascii.getLast? ≠ some '.') :
    bareHost (frontPage (.name ascii)) = ascii :=
  withoutDots_eq_self fun _ hc he => hdot (he ▸ hc)

theorem reaches_ofName (h : IsHostName name ascii) (hdot : ascii.getLast? ≠ some '.')
    (hlocal : ascii.lower ∉ localNames) : Reaches (ofName name) (frontPage (.name ascii)) where
  nonempty := by
    rw [trim_ofName]
    exact List.append_ne_nil_of_left_ne_nil (by decide) _
  read := by rw [trim_ofName, h.read_ofName]
  web := rfl
  host := by
    rw [bareHost_frontPage hdot]
    exact h.ascii_ne_nil
  foreign := by rwa [bareHost_frontPage hdot]

/-- The check of a front page judges the answer for its host. -/
theorem run_check_ofName (h : IsHostName name ascii) (hdot : ascii.getLast? ≠ some '.')
    (hlocal : ascii.lower ∉ localNames) (n : Network) (log : Log) :
    ((check n (ofName name)).run log).1 = approve ascii (n.told log ascii) := by
  rw [(reaches_ofName h hdot hlocal).run_check, bareHost_frontPage hdot]

/-- All answers of a lookup, with what the check and the guarded lookup make of each. -/
inductive Judged (name ascii : Text) :
    Net.Told → Except Fault Unit → Except Net.Guard.Fault (List Address) → Prop
  | failed (text : String) : Judged name ascii (.error text) (.error (.unresolvable ascii text))
      (.error (.lookupFailed text))
  | empty : Judged name ascii (.ok []) (.error (.unresolvable ascii "no addresses"))
      (.error (.noAddress name))
  | blocked {as a} (h : as.find? (!·.isPublic) = some a) :
      Judged name ascii (.ok as) (.error (.unsafeDestination ⟨a.reach, a.text⟩))
        (.error (.unsafeAddress ⟨a.reach, a.text⟩))
  | passed {as} (hne : as ≠ []) (h : ∀ a ∈ as, a.isPublic = true) :
      Judged name ascii (.ok as) (.ok ()) (.ok as)

theorem judged (name ascii : Text) (told : Net.Told) :
    Judged name ascii told (approve ascii told) (Guard.approve name told) := by
  match told with
  | .error text => exact .failed text
  | .ok [] => exact .empty
  | .ok (b :: rest) =>
    cases hfind : (b :: rest).find? (!·.isPublic) with
    | some a =>
      have hcheck := Address.checkAll_eq_error_iff.mpr ⟨a, hfind, rfl⟩
      simp only [approve, Guard.approve, hcheck]
      exact .blocked hfind
    | none =>
      have hpublic : ∀ a ∈ b :: rest, a.isPublic = true := by simpa using hfind
      have hcheck := Address.checkAll_eq_ok_iff.mpr hpublic
      simp only [approve, Guard.approve, hcheck]
      exact .passed (List.cons_ne_nil b rest) hpublic

/-- For a host name that has no dot at its end, is none of the local machine and is told the same at
both gates, the check of its URL passes just if the guarded lookup does. Both refuse it for an address
in the same cases, and the address is the first of the answer that is not public; an answer that
passes is handed on as it is. -/
theorem check_iff_resolve {told : Net.Told} (hname : IsHostName name ascii)
    (hdot : ascii.getLast? ≠ some '.') (hlocal : ascii.lower ∉ localNames)
    (hchecked : n.told log ascii = told) (hdialed : n'.told log' name = told) :
    (((check n (ofName name)).run log).1 = .ok () ↔
      ∃ as, ((Guard.resolve n' name).run log').1 = .ok as) ∧
    (∀ v, ((check n (ofName name)).run log).1 = .error (.unsafeDestination v) ↔
      ((Guard.resolve n' name).run log').1 = .error (.unsafeAddress v)) ∧
    (∀ v, ((Guard.resolve n' name).run log').1 = .error (.unsafeAddress v) ↔
      ∃ as a, told = .ok as ∧ as.find? (!·.isPublic) = some a ∧ v = ⟨a.reach, a.text⟩) ∧
    (∀ as, ((Guard.resolve n' name).run log').1 = .ok as ↔
      told = .ok as ∧ as ≠ [] ∧ ∀ a ∈ as, a.isPublic = true) := by
  rw [run_check_ofName hname hdot hlocal, Net.Guard.run_resolve, hchecked, hdialed]
  dsimp only
  have hjudged := judged name ascii told
  generalize approve ascii told = checked, Guard.approve name told = resolved at hjudged
  cases hjudged with
  | failed => simp
  | empty => simp
  | @blocked as a h =>
    have hhidden : a.isPublic = false := by simpa using List.find?_some h
    have hmem : a ∈ as := List.mem_of_find?_eq_some h
    refine ⟨by simp, by simp, fun v => ?_, fun bs => ?_⟩
    · simp [h, eq_comm]
    · simp only [reduceCtorEq, Except.ok.injEq, false_iff]
      rintro ⟨rfl, -, hpublic⟩
      simp [hpublic a hmem] at hhidden
  | @passed as hne h =>
    have hnone : as.find? (!·.isPublic) = none := by simpa using h
    refine ⟨by simp, by simp, by simp [hnone], fun bs => ?_⟩
    simp only [Except.ok.injEq]
    refine ⟨?_, And.left⟩
    rintro rfl
    exact ⟨rfl, hne, h⟩

theorem isHostName_camera : IsHostName "Cam.Test".toList "cam.test".toList := by
  have hletters : ("Cam.Test".toList.all fun c => Idna.isAscii c && !Idna.isForbidden c) = true := by
    decide
  simp only [List.all_eq_true, Bool.and_eq_true, Bool.not_eq_true'] at hletters
  exact Url.isHostName_of_isAscii (fun c hc => (hletters c hc).1) (fun c hc => (hletters c hc).2)
    (by decide) (by decide +kernel) (by decide)

/-- Neither gate lets a mixed answer pass, and both name the private address. -/
theorem check_iff_resolve_of_mixed :
    ((check (answering [outside, inside]) (ofName "Cam.Test".toList)).run []).1 =
      .error (.unsafeDestination ⟨.privateNet, "10.0.0.1".toList⟩) ∧
    ((Guard.resolve (answering [outside, inside]) "Cam.Test".toList).run []).1 =
      .error (.unsafeAddress ⟨.privateNet, "10.0.0.1".toList⟩) := by
  have hchecked : (answering [outside, inside]).told [] "cam.test".toList =
    .ok [outside, inside] := rfl
  have htold : (answering [outside, inside]).told [] "Cam.Test".toList = .ok [outside, inside] := rfl
  obtain ⟨-, hsame, hfirst, -⟩ :=
    check_iff_resolve isHostName_camera (by decide) (by decide) hchecked htold
  have hdialed := (hfirst _).mpr ⟨[outside, inside], inside, rfl, by decide, rfl⟩
  exact ⟨(hsame _).mpr hdialed, hdialed⟩

end MediaPerimeter.Callback
