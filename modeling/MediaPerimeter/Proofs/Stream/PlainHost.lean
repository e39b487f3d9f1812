import MediaPerimeter.Proofs.Address.Characters
import MediaPerimeter.Proofs.Stream.Rebuilt

/-!
# URLs without credentials

A stream URL that was written without credentials keeps its host, whatever follows the authority,
if it names a port or its host is an IP literal, and for `srt` always. A name without a port could
as well be the beginning of credentials, and then an `@` in front of the path decides.
-/
namespace MediaPerimeter.StreamUrl

open Text (StartsAt part)

def inName (c : Char) : Bool := c.isAlphanum || c == '-' || c == '.'

inductive PlainHost : Text → Prop
  | name {host : Text} (hne : host ≠ []) (h : ∀ c ∈ host, inName c = true) : PlainHost host
  | literal {inside : Text} {ip : IPv6} (h : Address.ofText? inside = some (.v6 ip)) :
      PlainHost ('[' :: inside ++ [']'])

/-- The parts of a URL without credentials. The port is in decimal digits. -/
structure Plain (scheme host : Text) (port : Option Text) (tail : Text) : Prop where
  scheme : Scheme.isValid scheme = true
  host : PlainHost host
  port : ∀ ds ∈ port, ds ≠ [] ∧ (∀ c ∈ ds, c.isDigit = true) ∧ Decimal.value ds ≤ 65535
  starts : StartsAt endsAuthority tail
  last : ∀ c ∈ tail.getLast?, isBlank c = false

/-- The text is rebuilt with this host and port, and without credentials. -/
def KeepsHost (raw host : Text) (port : Option Nat) : Prop :=
  ∃ u, rebuild raw = .ok u ∧ u.host = host ∧ u.port = port ∧ u.username = none ∧ u.password = none

namespace PlainHost
variable {host : Text}

theorem isInner_of_mem (h : PlainHost host) {c : Char} (hc : c ∈ host) : IsInner c := by
  cases h with
  | name _ h => exact StreamUrl.isInner_of_mem (by decide) (h c hc)
  | literal h =>
    rcases List.mem_append.mp hc with hc | hc
    · rcases List.mem_cons.mp hc with rfl | hc
      · exact ⟨by decide, by decide⟩
      · exact StreamUrl.isInner_of_mem (by decide) (Address.inText_of_ofText? h c hc)
    · cases List.mem_singleton.mp hc
      exact ⟨by decide, by decide⟩

theorem joined (h : PlainHost host) {port : Option Text}
    (hport : ∀ ds ∈ port, ∀ c ∈ ds, c.isDigit = true) : Joined host port := by
  cases h with
  | name _ h =>
    refine .named (fun hhead => ?_) (fun ds hds hm => ?_) fun _ hm => ?_
    · exact absurd (h '[' (List.mem_of_head? hhead)) (by decide)
    · exact absurd (hport ds hds ':' hm) (by decide)
    · exact absurd (h ':' hm) (by decide)
  | literal h =>
    exact .bracketed (fun hm => absurd (Address.inText_of_ofText? h ']' hm) (by decide)) port

theorem ne_nil (h : PlainHost host) : host ≠ [] := by
  cases h with
  | name hne => exact hne
  | literal => exact List.cons_ne_nil _ _

theorem ne_brackets (h : PlainHost host) : host ≠ ['[', ']'] := by
  rintro rfl
  generalize heq : (['[', ']'] : Text) = host at h
  cases h with
  | name _ h => exact absurd (h '[' (heq ▸ List.mem_cons_self)) (by decide)
  | @literal inside _ h =>
    have hinside : inside = [] := by
      cases inside with
      | nil => rfl
      | cons c rest => simp at heq
    subst hinside
    cases h

theorem isBlank_getLast (h : PlainHost host) : ∀ c ∈ host.getLast?, isBlank c = false := by
  intro c hc
  cases h with
  | name _ h =>
    have hname := h c (List.mem_of_getLast? hc)
    simp only [inName, Bool.or_eq_true, beq_iff_eq] at hname
    rcases hname with (hname | rfl) | rfl
    · exact Text.isBlank_of_isAlphanum hname
    · decide
    · decide
  | literal =>
    rw [List.getLast?_concat] at hc
    cases hc
    decide

end PlainHost

namespace Plain
variable {scheme host tail : Text} {port : Option Text}

theorem isInner_of_mem (h : Plain scheme host port tail) {c : Char}
    (hc : c ∈ host ++ part ':' port) : IsInner c := by
  rcases List.mem_append.mp hc with hc | hc
  · exact h.host.isInner_of_mem hc
  · cases port with
    | none => cases hc
    | some ds =>
      rcases List.mem_cons.mp hc with rfl | hc
      · exact ⟨by decide, by decide⟩
      · exact isInner_of_isDigit ((h.port ds rfl).2.1 c hc)

theorem reads (h : Plain scheme host port tail) :
    readHostPort (host ++ part ':' port) = .ok (host, port.map Decimal.value) := by
  refine readHostPort_eq_ok_iff.mpr ⟨port, rfl, h.host.joined fun ds hds => (h.port ds hds).2.1,
    h.host.ne_nil, h.host.ne_brackets, ?_⟩
  cases port with
  | none => exact .absent
  | some ds =>
    obtain ⟨hne, hdigits, hmax⟩ := h.port ds rfl
    exact .present (Decimal.readUpTo?_of_digits hne hdigits hmax)

theorem clean_eq_none_iff (h : Plain scheme host port tail) :
    cleanAuthority? (host ++ part ':' port) = none ↔
      port = none ∧ Address.ofText? host.unbracket = none := by
  have hat : '@' ∉ host ++ part ':' port := fun hm => (h.isInner_of_mem hm).1 rfl
  constructor
  · intro hclean
    by_contra hn
    have hclear : (port.map Decimal.value).isSome = true ∨
        (Address.ofText? host.unbracket).isSome = true := by
      cases port with
      | none => exact .inr (Option.isSome_iff_ne_none.mpr fun hnone => hn ⟨rfl, hnone⟩)
      | some ds => exact .inl rfl
    rw [cleanAuthority?_eq_some_iff.mpr ⟨hat, h.reads, hclear⟩] at hclean
    cases hclean
  · rintro ⟨rfl, haddress⟩
    cases hclean : cleanAuthority? (host ++ part ':' none) with
    | none => rfl
    | some parts =>
      obtain ⟨host', port'⟩ := parts
      obtain ⟨-, hread, hclear⟩ := cleanAuthority?_eq_some_iff.mp hclean
      rw [h.reads] at hread
      cases hread
      rw [haddress] at hclear
      rcases hclear with hclear | hclear <;> cases hclear

theorem trim_eq (h : Plain scheme host port tail) :
    (scheme ++ "://".toList ++ host ++ part ':' port ++ tail).trim =
      scheme ++ ':' :: '/' :: '/' :: (host ++ part ':' port ++ tail) := by
  have htext : scheme ++ "://".toList ++ host ++ part ':' port ++ tail =
      scheme ++ ':' :: '/' :: '/' :: (host ++ part ':' port ++ tail) := by simp
  rw [htext]
  refine Scheme.trim_eq_self h.scheme ?_
  rw [← htext]
  by_cases htail : tail = []
  · subst htail
    cases port with
    | none =>
      have hsuffix : host <:+ scheme ++ "://".toList ++ host ++ part ':' none ++ [] :=
        ⟨scheme ++ "://".toList, by simp [part]⟩
      rw [Text.getLast?_of_suffix hsuffix h.host.ne_nil]
      exact h.host.isBlank_getLast
    | some ds =>
      obtain ⟨hne, hdigits, -⟩ := h.port ds rfl
      have hsuffix : ds <:+ scheme ++ "://".toList ++ host ++ part ':' (some ds) ++ [] :=
        ⟨scheme ++ "://".toList ++ host ++ [':'], by simp [part]⟩
      exact Text.isBlank_getLast_of_digits hsuffix hne hdigits
  · rw [Text.getLast?_of_suffix (List.suffix_append _ tail) htail]
    exact h.last

/-- Without an `@` that could end credentials, the text is divided as it was written. -/
theorem divided (h : Plain scheme host port tail) {srt : Bool}
    (hat : port = none ∧ Address.ofText? host.unbracket = none →
      '@' ∉ (tail.breakAt (endsReach srt)).1) :
    Divided srt (host ++ part ':' port ++ tail) ⟨none, host, port.map Decimal.value, tail⟩
      (host ++ part ':' port) where
  rest_eq := rfl
  reads := h.reads
  noAt hm := (h.isInner_of_mem hm).1 rfl
  noEnd _ hc := (h.isInner_of_mem hc).2
  starts := h.starts
  inReach := nofun
  unclean := nofun
  last hlast := by
    refine hat (h.clean_eq_none_iff.mp (hlast.resolve_left fun hne => hne rfl))

theorem keepsHost (h : Plain scheme host port tail)
    (hat : port = none ∧ Address.ofText? host.unbracket = none →
      '@' ∉ (tail.breakAt (endsReach (isSrtScheme scheme))).1) :
    KeepsHost (scheme ++ "://".toList ++ host ++ part ':' port ++ tail) host
      (port.map Decimal.value) := by
  rcases htail : divideTail (isSrtScheme scheme) tail with ⟨path, query, fragment⟩
  let u : StreamUrl :=
    ⟨scheme, none, none, host, port.map Decimal.value, path, query, fragment⟩
  have hu : Rebuilt _ u _ _ _ := ⟨h.trim_eq, h.scheme, h.divided hat, rfl, rfl, rfl, htail⟩
  exact ⟨u, hu.rebuild_eq, rfl, rfl, rfl, rfl⟩

/-- Where the host was kept, no `@` could end credentials. -/
theorem not_mem_of_keepsHost (h : Plain scheme host port tail)
    (hkeeps : KeepsHost (scheme ++ "://".toList ++ host ++ part ':' port ++ tail) host
      (port.map Decimal.value)) (hclear : port = none ∧ Address.ofText? host.unbracket = none) :
    '@' ∉ (tail.breakAt (endsReach (isSrtScheme scheme))).1 := by
  obtain ⟨u, hrebuild, -, -, hname, -⟩ := hkeeps
  obtain ⟨rest, d, hostPort, hu⟩ := Rebuilt.of_rebuild hrebuild
  have hsplit := Scheme.split?_eq_some_iff.mpr ⟨hu.trim_eq, hu.valid⟩
  rw [Scheme.split?_eq_some_iff.mpr ⟨h.trim_eq, h.scheme⟩] at hsplit
  cases hsplit
  have huser : d.userinfo = none := hu.escaped.login_eq_none_iff.mp (by rw [login, hname]; rfl)
  have hrest := hu.divided.rest_eq
  rw [huser, ended, List.nil_append] at hrest
  have hbreak := hu.divided.breakAt_authority
  rw [← hrest, Text.breakAt_append_of_startsAt (fun c hc => (h.isInner_of_mem hc).2) h.starts]
    at hbreak
  simp only [Prod.mk.injEq] at hbreak
  obtain ⟨hsame, htail⟩ := hbreak
  rw [htail]
  exact hu.divided.last (.inr (hsame ▸ h.clean_eq_none_iff.mpr hclear))

/-- The options of an `srt` URL are out of reach. -/
theorem not_mem_reach (h : Plain scheme host port tail) :
    '@' ∉ (tail.breakAt (endsReach true)).1 := by
  have hbreak : tail.breakAt (endsReach true) = ([], tail) :=
    Text.breakAt_append_of_startsAt (a := []) nofun h.starts
  rw [hbreak]
  exact List.not_mem_nil

end Plain

/-- An `@` behind the authority moves the host of a URL without credentials only if the scheme is not
`srt`, the host is a name without a port, and the `@` stands in front of the path. -/
theorem keepsHost_iff {scheme host tail : Text} {port : Option Text}
    (h : Plain scheme host port tail) :
    KeepsHost (scheme ++ "://".toList ++ host ++ part ':' port ++ tail) host
        (port.map Decimal.value) ↔
      isSrtScheme scheme = true ∨ port ≠ none ∨ Address.ofText? host.unbracket ≠ none ∨
        '@' ∉ (tail.breakAt (· == '/')).1 := by
  cases hsrt : isSrtScheme scheme with
  | true =>
    have hkeeps := h.keepsHost fun _ => by
      rw [hsrt]
      exact h.not_mem_reach
    exact ⟨fun _ => .inl rfl, fun _ => hkeeps⟩
  | false =>
    have hreach : tail.breakAt (endsReach (isSrtScheme scheme)) = tail.breakAt (· == '/') := by
      rw [hsrt]
      rfl
    constructor
    · intro hkeeps
      by_contra hn
      simp only [not_or, Decidable.not_not] at hn
      obtain ⟨-, hport, haddress, hat⟩ := hn
      exact (hreach ▸ h.not_mem_of_keepsHost hkeeps ⟨hport, haddress⟩) hat
    · intro hclear
      refine h.keepsHost ?_
      rw [hreach]
      rintro ⟨hport, haddress⟩
      rcases hclear with hclear | hclear | hclear | hclear
      · cases hclear
      · exact absurd hport hclear
      · exact absurd haddress hclear
      · exact hclear

theorem keepsHost_iff_of_literal :
    Plain "rtsp".toList "[2001:db8::1]".toList none "?user=a@b#c@d".toList ∧
    KeepsHost "rtsp://[2001:db8::1]?user=a@b#c@d".toList "[2001:db8::1]".toList none := by
  have haddress : Address.ofText? "2001:db8::1".toList =
      some (.v6 ⟨0x2001, 0xdb8, 0, 0, 0, 0, 0, 1⟩) := by decide
  have h : Plain "rtsp".toList "[2001:db8::1]".toList none "?user=a@b#c@d".toList := by
    refine ⟨by decide, .literal haddress, nofun, ?_, ?_⟩
    · rintro c ⟨⟩
      rfl
    · rintro c ⟨⟩
      rfl
  exact ⟨h, (keepsHost_iff h).mpr (.inr (.inr (.inl (by decide))))⟩

/-- The host `host` of `rtmp://host?a@b` is read as a name of credentials for `b`. -/
theorem exists_not_keepsHost : ¬ ∀ {scheme host tail : Text} {port : Option Text},
    Plain scheme host port tail →
      KeepsHost (scheme ++ "://".toList ++ host ++ part ':' port ++ tail) host
        (port.map Decimal.value) := by
  intro hkeeps
  have h : Plain "rtmp".toList "host".toList none "?a@b".toList := by
    refine ⟨by decide, .name (by decide) (List.all_eq_true.mp rfl), nofun, ?_, ?_⟩
    · rintro c ⟨⟩
      rfl
    · rintro c ⟨⟩
      rfl
  have hmoved : rebuild "rtmp://host?a@b".toList = .ok ⟨"rtmp".toList, some "host%3Fa".toList, none,
      "b".toList, none, [], none, none⟩ := by decide +kernel
  obtain ⟨u, hu, hhost, -⟩ := hkeeps h
  cases hmoved.symm.trans hu
  exact absurd hhost (by decide)

end MediaPerimeter.StreamUrl
