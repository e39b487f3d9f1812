import MediaPerimeter.Proofs.Stream.Rebuilt

/-!
# A strict reader contacts the same host

The grammar of URLs as relations between a text and its parts, apart from any reader. A rebuilt URL
is written so that it has one reading by this grammar, and that reading is the URL: nothing that was
accepted leniently makes a strict reader contact another host.
-/
namespace MediaPerimeter

open Text (StartsAt part)

namespace Strict

/-- The authority begins behind the first `://` and ends in front of the first `/`, `?` or `#`. -/
structure Outer (t scheme authority tail : Text) : Prop where
  eq : t = scheme ++ "://".toList ++ (authority ++ tail)
  scheme : ':' ∉ scheme
  authority : '/' ∉ authority ∧ '?' ∉ authority ∧ '#' ∉ authority
  tail : tail = [] ∨ tail.head? = some '/' ∨ tail.head? = some '?' ∨ tail.head? = some '#'

/-- What is in brackets, or a name. The grammar of URLs allows for fewer hosts than these. -/
inductive Host : Text → Prop
  | bracketed {inside : Text} (hclose : ']' ∉ inside) (hat : '@' ∉ inside) :
      Host ('[' :: inside ++ [']'])
  | named {name : Text} (hcolon : ':' ∉ name) (hopen : '[' ∉ name) (hat : '@' ∉ name) : Host name

structure Authority (t : Text) (userinfo : Option Text) (host : Text) (port : Option Text) :
    Prop where
  eq : t = StreamUrl.ended userinfo ++ (host ++ part ':' port)
  userinfo : ∀ info ∈ userinfo, '@' ∉ info
  host : Host host
  port : ∀ ds ∈ port, ∀ c ∈ ds, c.isDigit = true

/-- The fragment stands behind the first `#`, and the query behind the first `?` in front of that.
The options of an `srt` URL are what stands behind the first `?`. -/
inductive IsTail : Bool → Text → Tail → Prop
  | generic {path : Text} {query : Option Text} (hhash : '#' ∉ path ++ part '?' query)
      (hmark : '?' ∉ path) (fragment : Option Text) :
      IsTail false (path ++ part '?' query ++ part '#' fragment) ⟨path, query, fragment⟩
  | options {path : Text} (hmark : '?' ∉ path) (query : Option Text) :
      IsTail true (path ++ part '?' query) ⟨path, query, none⟩

/-- A strict reader of the text contacts the host. -/
def Contacts (t host : Text) : Prop :=
  ∃ scheme authority tail userinfo port, Outer t scheme authority tail ∧
    Authority authority userinfo host port

theorem Outer.breakAt_eq {t scheme authority tail : Text} (h : Outer t scheme authority tail) :
    (authority ++ tail).breakAt StreamUrl.endsAuthority = (authority, tail) := by
  obtain ⟨hslash, hmark, hhash⟩ := h.authority
  refine Text.breakAt_append_of_startsAt (fun c hc => ?_) (fun c hc => ?_)
  · rw [← Bool.not_eq_true, StreamUrl.endsAuthority_iff]
    rintro (rfl | rfl | rfl)
    · exact hslash hc
    · exact hmark hc
    · exact hhash hc
  · rcases h.tail with rfl | htail | htail | htail
    · cases hc
    all_goals
      rw [htail] at hc
      cases hc
      rfl

theorem Outer.unique {t scheme authority tail scheme' authority' tail' : Text}
    (h : Outer t scheme authority tail) (h' : Outer t scheme' authority' tail') :
    scheme' = scheme ∧ authority' = authority ∧ tail' = tail := by
  have hcut : ∀ {s a r : Text}, Outer t s a r → t.cut ':' = some (s, '/' :: '/' :: (a ++ r)) := by
    intro s a r hs
    rw [hs.eq, List.append_assoc]
    exact Text.cut_append hs.scheme _
  have hsame := (hcut h').symm.trans (hcut h)
  simp only [Option.some.injEq, Prod.mk.injEq, List.cons.injEq, true_and] at hsame
  obtain ⟨hscheme, hrest⟩ := hsame
  have hbreak := h'.breakAt_eq
  rw [hrest, h.breakAt_eq] at hbreak
  cases hbreak
  exact ⟨hscheme, rfl, rfl⟩

theorem Host.joined {host : Text} {port : Option Text} (h : Host host)
    (hport : ∀ ds ∈ port, ∀ c ∈ ds, c.isDigit = true) : StreamUrl.Joined host port := by
  cases h with
  | bracketed hclose => exact .bracketed hclose port
  | named hcolon hopen =>
    refine .named (fun hhead => hopen (List.mem_of_head? hhead)) (fun q hq hmem => ?_)
      fun _ => hcolon
    exact absurd (hport q hq ':' hmem) (by decide)

theorem Host.not_mem {host : Text} (h : Host host) : '@' ∉ host := by
  cases h with
  | bracketed _ hat => simpa using hat
  | named _ _ hat => exact hat

theorem isTail_iff {srt : Bool} {t : Text} {tail : Tail} :
    IsTail srt t tail ↔ StreamUrl.divideTail srt t = tail := by
  rw [StreamUrl.divideTail_eq_iff]
  constructor
  · intro h
    cases h with
    | generic hhash hmark => exact ⟨rfl, hmark, hhash⟩
    | options hmark => exact ⟨(List.append_nil _).symm, hmark, rfl⟩
  · obtain ⟨path, query, fragment⟩ := tail
    rintro ⟨rfl, hmark, hhash⟩
    cases srt with
    | false => exact .generic hhash hmark fragment
    | true =>
      cases (show fragment = none from hhash)
      simpa [part] using IsTail.options hmark query

structure Reads (u : StreamUrl) : Prop where
  outer : ∀ scheme authority tail, Outer u.text scheme authority tail ↔
    scheme = u.scheme ∧ authority = u.authority ∧ tail = u.tail
  at_count : u.authority.count '@' = if u.username.isSome then 1 else 0
  tail : ∀ tail, IsTail u.isSrt u.tail tail ↔ tail = ⟨u.path, u.query, u.fragment⟩
  path : u.isSrt = false → u.path = [] ∨ u.path.head? = some '/'
  contacts : ∀ host, Contacts u.text host ↔ Host u.host ∧ host = u.host

end Strict

namespace StreamUrl.Rebuilt
variable {raw : Text} {u : StreamUrl} {rest : Text} {d : Division} {hostPort : Text}

theorem outer (h : Rebuilt raw u rest d hostPort) :
    Strict.Outer u.text u.scheme u.authority u.tail where
  eq := by simp only [text, List.append_assoc]
  scheme := Scheme.not_mem_colon h.valid
  authority := by
    refine ⟨fun hm => ?_, fun hm => ?_, fun hm => ?_⟩
    all_goals exact absurd (h.not_endsAuthority hm) (by decide)
  tail := by
    cases htail : u.tail with
    | nil => exact .inl rfl
    | cons c more =>
      have hc := h.starts c (by rw [htail]; rfl)
      rcases endsAuthority_iff.mp hc with rfl | rfl | rfl
      · exact .inr (.inl rfl)
      · exact .inr (.inr (.inl rfl))
      · exact .inr (.inr (.inr rfl))

theorem count_at (h : Rebuilt raw u rest d hostPort) :
    u.authority.count '@' = if u.username.isSome then 1 else 0 := by
  have hwritten := List.count_eq_zero.mpr h.not_mem_written
  rw [authority_eq, List.count_append, hwritten, Nat.add_zero]
  cases hlogin : login u.username u.password with
  | none =>
    rw [Option.map_eq_none_iff.mp hlogin]
    rfl
  | some info =>
    obtain ⟨name, hname, -⟩ := Option.map_eq_some_iff.mp hlogin
    have hinfo : '@' ∉ info := fun hm => (h.isInner_of_mem_login hlogin hm).1 rfl
    rw [hname, ended, List.count_append, List.count_eq_zero.mpr hinfo]
    rfl

/-- In front of the path of a tail nothing can stand, so it begins where the tail does. -/
theorem path_head (h : Rebuilt raw u rest d hostPort) (hsrt : u.isSrt = false) :
    u.path = [] ∨ u.path.head? = some '/' := by
  have htail := h.tail_eq
  rw [hsrt] at htail
  obtain ⟨-, hmark, hhash⟩ := divideTail_eq_iff.mp htail
  cases hpath : u.path with
  | nil => exact .inl rfl
  | cons c more =>
    have hc := h.starts c (by rw [tail, hpath]; rfl)
    rw [hpath] at hmark hhash
    rcases endsAuthority_iff.mp hc with rfl | rfl | rfl
    · exact .inr rfl
    · exact absurd List.mem_cons_self hmark
    · exact absurd List.mem_cons_self hhash

theorem authority_iff (h : Rebuilt raw u rest d hostPort) {userinfo port : Option Text}
    {host : Text} : Strict.Authority u.authority userinfo host port ↔ Strict.Host u.host ∧
      userinfo = login u.username u.password ∧ host = u.host ∧ port = u.port.map Decimal.text := by
  constructor
  · intro ha
    -- Behind the credentials neither reading has an `@`, so both end them at the same place.
    have hport : '@' ∉ part ':' port := by
      cases port with
      | none => exact List.not_mem_nil
      | some ds =>
        rintro (_ | ⟨_, hm⟩)
        exact absurd (ha.port ds rfl _ hm) (by decide)
    have hat : '@' ∉ host ++ part ':' port := fun hm =>
      (List.mem_append.mp hm).elim ha.host.not_mem hport
    obtain ⟨rfl, hsame⟩ := ended_append_inj hat h.not_mem_written
      (ha.eq.symm.trans (authority_eq u))
    have hdivide := (ha.host.joined ha.port).divideHost_eq
    rw [hsame, written, (joined_written h.reads).divideHost_eq] at hdivide
    cases hdivide
    exact ⟨ha.host, rfl, rfl, rfl⟩
  · rintro ⟨hhost, rfl, rfl, rfl⟩
    refine ⟨authority_eq u, fun info hinfo hm => (h.isInner_of_mem_login hinfo hm).1 rfl, hhost, ?_⟩
    intro ds hds c hc
    obtain ⟨n, -, rfl⟩ := Option.map_eq_some_iff.mp hds
    exact Decimal.isDigit_of_mem_text hc

theorem contacts_iff (h : Rebuilt raw u rest d hostPort) (host : Text) :
    Strict.Contacts u.text host ↔ Strict.Host u.host ∧ host = u.host := by
  constructor
  · rintro ⟨scheme, authority, tail, userinfo, port, houter, ha⟩
    obtain ⟨-, rfl, -⟩ := h.outer.unique houter
    obtain ⟨hhost, -, rfl, -⟩ := h.authority_iff.mp ha
    exact ⟨hhost, rfl⟩
  · rintro ⟨hhost, rfl⟩
    exact ⟨_, _, _, _, _, h.outer, h.authority_iff.mpr ⟨hhost, rfl, rfl, rfl⟩⟩

end Rebuilt

/-- A strict reader reads a rebuilt URL as it was rebuilt. -/
theorem strictly_read {raw : Text} {u : StreamUrl} (h : rebuild raw = .ok u) : Strict.Reads u := by
  obtain ⟨rest, d, hostPort, hu⟩ := Rebuilt.of_rebuild h
  refine ⟨fun scheme authority tail => ⟨hu.outer.unique, ?_⟩, hu.count_at, fun tail => ?_,
    hu.path_head, hu.contacts_iff⟩
  · rintro ⟨rfl, rfl, rfl⟩
    exact hu.outer
  · rw [Strict.isTail_iff, hu.tail_text, hu.tail_eq, eq_comm]

/-- Credentials with delimiters, and options with a `#` in front of their `?`. -/
theorem strictly_read_of_encoder :
    rebuild "srt://a@b:c:d@host#x?m=1@e".toList = .ok ⟨"srt".toList, some "a%40b".toList,
      some "c%3Ad".toList, "host".toList, none, "#x".toList, some "m=1@e".toList, none⟩ ∧
    Strict.Reads ⟨"srt".toList, some "a%40b".toList, some "c%3Ad".toList, "host".toList, none,
      "#x".toList, some "m=1@e".toList, none⟩ := by
  have h : rebuild "srt://a@b:c:d@host#x?m=1@e".toList = .ok ⟨"srt".toList, some "a%40b".toList,
      some "c%3Ad".toList, "host".toList, none, "#x".toList, some "m=1@e".toList, none⟩ := by
    decide +kernel
  exact ⟨h, strictly_read h⟩

end StreamUrl
end MediaPerimeter
