import MediaPerimeter.Proofs.Stream.Credentials
import MediaPerimeter.Proofs.Stream.Division
import MediaPerimeter.Proofs.Url.Parts

/-!
# Rebuilt stream URLs

What is known of a URL that was rebuilt: it is a division of the text that was given, with escaped
credentials. So nothing in front of its tail ends the authority, and the text it is written as is
divided into the parts that it was written from.
-/
namespace MediaPerimeter

open Text (StartsAt part)

namespace StreamUrl

/-- The tail of an `srt` URL has no fragment, and its first `?` may stand behind a `#`. -/
theorem divideTail_eq_iff {srt : Bool} {t : Text} {tail : Tail} : divideTail srt t = tail ↔
    t = tail.path ++ part '?' tail.query ++ part '#' tail.fragment ∧ '?' ∉ tail.path ∧
    if srt then tail.fragment = none else '#' ∉ tail.path ++ part '?' tail.query := by
  cases srt with
  | false => exact Tail.divide_eq_iff
  | true =>
    obtain ⟨path, query, fragment⟩ := tail
    constructor
    · intro h
      cases h
      obtain ⟨ht, hpath⟩ := Tail.divideQuery_eq_iff.mp (Eq.refl (Tail.divideQuery t))
      exact ⟨ht.trans (List.append_nil _).symm, hpath, rfl⟩
    · rintro ⟨rfl, hpath, rfl⟩
      have hquery : Tail.divideQuery (path ++ part '?' query ++ part '#' none) = (path, query) :=
        Tail.divideQuery_eq_iff.mpr ⟨List.append_nil _, hpath⟩
      simp only [divideTail, ↓reduceIte, hquery]

theorem authority_eq (u : StreamUrl) :
    u.authority = ended (login u.username u.password) ++ written u.host u.port := by
  have huser : u.userinfo = ended (login u.username u.password) := by
    unfold userinfo login
    cases u.username <;> rfl
  rw [authority, huser, List.append_assoc]
  rfl

theorem text_eq (u : StreamUrl) :
    u.text = u.scheme ++ ':' :: '/' :: '/' :: (u.authority ++ u.tail) := by
  have hslashes : "://".toList = [':', '/', '/'] := rfl
  simp only [text, hslashes, List.append_assoc, List.cons_append, List.nil_append]

structure Rebuilt (raw : Text) (u : StreamUrl) (rest : Text) (d : Division) (hostPort : Text) :
    Prop where
  trim_eq : raw.trim = u.scheme ++ ':' :: '/' :: '/' :: rest
  valid : Scheme.isValid u.scheme = true
  divided : Divided u.isSrt rest d hostPort
  credentials_eq : credentials d.userinfo = (u.username, u.password)
  host_eq : d.host = u.host
  port_eq : d.port = u.port
  tail_eq : divideTail u.isSrt d.tail = ⟨u.path, u.query, u.fragment⟩

theorem Rebuilt.of_rebuild {raw : Text} {u : StreamUrl} (h : rebuild raw = .ok u) :
    ∃ rest d hostPort, Rebuilt raw u rest d hostPort := by
  unfold rebuild at h
  split at h
  · rename_i scheme rest hsplit
    obtain ⟨ht, hvalid⟩ := Scheme.split?_eq_some_iff.mp hsplit
    cases hdiv : divide (isSrtScheme scheme) rest with
    | error e =>
      rw [hdiv] at h
      cases h
    | ok d =>
      rw [hdiv] at h
      cases h
      obtain ⟨hostPort, hd⟩ := divide_eq_ok_iff.mp hdiv
      exact ⟨rest, d, hostPort, ht, hvalid, hd, rfl, rfl, rfl, rfl⟩
  · cases h

namespace Rebuilt
variable {raw : Text} {u : StreamUrl} {rest : Text} {d : Division} {hostPort : Text}

theorem rebuild_eq (h : Rebuilt raw u rest d hostPort) : rebuild raw = .ok u := by
  have hsplit : Scheme.split? raw.trim = some (u.scheme, '/' :: '/' :: rest) :=
    Scheme.split?_eq_some_iff.mpr ⟨h.trim_eq, h.valid⟩
  have hdiv := divide_eq_ok_iff.mpr ⟨hostPort, h.divided⟩
  have htail := h.tail_eq
  unfold isSrt at hdiv htail
  simp only [rebuild, hsplit, hdiv, h.credentials_eq, htail, h.host_eq, h.port_eq]

theorem reads (h : Rebuilt raw u rest d hostPort) :
    readHostPort hostPort = .ok (u.host, u.port) := by
  rw [h.divided.reads, h.host_eq, h.port_eq]

theorem escaped (h : Rebuilt raw u rest d hostPort) :
    Escaped d.userinfo u.username u.password :=
  .of_credentials h.credentials_eq

theorem isInner_of_mem_login (h : Rebuilt raw u rest d hostPort) {info : Text}
    (hinfo : info ∈ login u.username u.password) {c : Char} (hc : c ∈ info) : IsInner c := by
  rcases h.escaped.of_mem_login hinfo hc with hc | rfl
  · exact isInner_of_mem (by decide) hc
  · exact ⟨by decide, by decide⟩

theorem isInner_of_mem_written (h : Rebuilt raw u rest d hostPort) {c : Char}
    (hc : c ∈ written u.host u.port) : IsInner c := by
  rcases mem_written h.reads hc with hc | rfl | hc
  · exact ⟨fun he => h.divided.noAt (he ▸ hc), h.divided.noEnd c hc⟩
  · exact ⟨by decide, by decide⟩
  · exact isInner_of_isDigit hc

theorem not_mem_written (h : Rebuilt raw u rest d hostPort) : '@' ∉ written u.host u.port :=
  fun hm => (h.isInner_of_mem_written hm).1 rfl

theorem tail_text (h : Rebuilt raw u rest d hostPort) : u.tail = d.tail :=
  (divideTail_eq_iff.mp h.tail_eq).1.symm

theorem starts (h : Rebuilt raw u rest d hostPort) : StartsAt endsAuthority u.tail :=
  h.tail_text ▸ h.divided.starts

theorem not_endsAuthority (h : Rebuilt raw u rest d hostPort) {c : Char} (hc : c ∈ u.authority) :
    endsAuthority c = false := by
  rw [authority_eq] at hc
  rcases List.mem_append.mp hc with hc | hc
  · obtain ⟨info, hinfo, hc⟩ := mem_ended.mp hc
    rcases hc with hc | rfl
    · exact (h.isInner_of_mem_login hinfo hc).2
    · rfl
  · exact (h.isInner_of_mem_written hc).2

/-- The authority ends where it was written to end. -/
theorem breakAt_authority (h : Rebuilt raw u rest d hostPort) :
    (u.authority ++ u.tail).breakAt endsAuthority = (u.authority, u.tail) :=
  Text.breakAt_append_of_startsAt (fun _ hc => h.not_endsAuthority hc) h.starts

end Rebuilt
end StreamUrl
end MediaPerimeter
