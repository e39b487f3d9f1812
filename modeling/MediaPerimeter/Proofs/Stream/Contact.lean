import MediaPerimeter.Proofs.Stream.Rebuilt

/-!
# Who is contacted

Credentials, host and port of a stream URL are decided in front of its tail. Text that stands behind
the first `/`, or for `srt` behind the first `/`, `?` or `#`, is only carried along: dividing what
stands in front finds the same parts, or fails in the same way, as dividing it with any tail.
-/
namespace MediaPerimeter.StreamUrl

open Text (StartsAt)

def Division.extend (tail : Text) (d : Division) : Division := { d with tail := d.tail ++ tail }

theorem divideAfter_append {userinfo : Option Text} {after tail : Text}
    (htail : StartsAt endsAuthority tail) : divideAfter userinfo (after ++ tail) =
      (divideAfter userinfo after).map (Division.extend tail) := by
  have hbreak := Text.breakAt_append_startsAt htail after
  simp only [divideAfter, hbreak]
  cases readHostPort (after.breakAt endsAuthority).1 with
  | error e => rfl
  | ok parts => rfl

/-- None of the searches of the reader goes beyond the reach of credentials. -/
theorem divide_append {srt : Bool} {front tail : Text}
    (hfront : ∀ c ∈ front, endsReach srt c = false) (htail : StartsAt (endsReach srt) tail) :
    divide srt (front ++ tail) = (divide srt front).map (Division.extend tail) := by
  have hstarts : StartsAt endsAuthority tail := htail.mono fun _ => endsAuthority_of_endsReach
  have hbreak := Text.breakAt_append_startsAt hstarts front
  have hreach : (front ++ tail).breakAt (endsReach srt) = (front, tail) :=
    Text.breakAt_append_of_startsAt hfront htail
  have halone : front.breakAt (endsReach srt) = (front, []) := by
    have h := Text.breakAt_append_of_startsAt hfront (b := []) nofun
    rwa [List.append_nil] at h
  cases hclean : cleanAuthority? (front.breakAt endsAuthority).1 with
  | some parts =>
    obtain ⟨host, port⟩ := parts
    have hsame : cleanAuthority? ((front ++ tail).breakAt endsAuthority).1 = some (host, port) := by
      rw [hbreak, hclean]
    rw [divide_of_clean hsame, divide_of_clean hclean, hbreak]
    rfl
  | none =>
    have hsame : cleanAuthority? ((front ++ tail).breakAt endsAuthority).1 = none := by
      rw [hbreak, hclean]
    rw [divide_of_unclean hsame, divide_of_unclean hclean, hreach, halone]
    cases front.cutLast '@' with
    | none => exact divideAfter_append hstarts
    | some parts =>
      obtain ⟨info, more⟩ := parts
      simp only [List.append_nil]
      exact divideAfter_append hstarts

/-- Where a connection goes, and the escaped credentials that are shown there. -/
structure Contact where
  username : Option Text
  password : Option Text
  host : Text
  port : Option Nat
deriving DecidableEq

def contact (u : StreamUrl) : Contact := ⟨u.username, u.password, u.host, u.port⟩

def Division.contact (d : Division) : Contact :=
  ⟨(credentials d.userinfo).1, (credentials d.userinfo).2, d.host, d.port⟩

def stops (scheme : Text) : List Char := if isSrtScheme scheme then ['/', '?', '#'] else ['/']

/-- A text without blanks around it that begins with a scheme and goes on, behind `://`, with what
stands in front of the first stop. -/
structure Opens (raw scheme front tail : Text) : Prop where
  raw_eq : raw = scheme ++ "://".toList ++ (front ++ tail)
  trim_eq : raw.trim = raw
  noColon : ':' ∉ scheme
  goesOn : ∀ c ∈ front, c ∉ stops scheme
  ends : ∀ c ∈ tail.head?, c ∈ stops scheme

theorem mem_stops_iff {scheme : Text} {c : Char} :
    c ∈ stops scheme ↔ endsReach (isSrtScheme scheme) c = true := by
  unfold stops endsReach
  cases isSrtScheme scheme with
  | true => simp [endsAuthority_iff]
  | false => simp

namespace Opens
variable {raw scheme front tail : Text}

theorem not_endsReach (h : Opens raw scheme front tail) :
    ∀ c ∈ front, endsReach (isSrtScheme scheme) c = false := by
  intro c hc
  have hstop := h.goesOn c hc
  rwa [mem_stops_iff, Bool.not_eq_true] at hstop

theorem startsAt (h : Opens raw scheme front tail) :
    StartsAt (endsReach (isSrtScheme scheme)) tail :=
  fun c hc => mem_stops_iff.mp (h.ends c hc)

theorem cut_eq (h : Opens raw scheme front tail) :
    raw.trim.cut ':' = some (scheme, '/' :: '/' :: (front ++ tail)) := by
  have hraw : raw = scheme ++ ':' :: '/' :: '/' :: (front ++ tail) := by
    rw [h.raw_eq, List.append_assoc]
    rfl
  rw [h.trim_eq, hraw]
  exact Text.cut_append h.noColon _

/-- The scheme and the text in front of the stop decide on the contact and on the failure. -/
theorem map_contact (h : Opens raw scheme front tail) : (rebuild raw).map contact =
    if Scheme.isValid scheme then (divide (isSrtScheme scheme) front).map Division.contact
    else .error .missingScheme := by
  by_cases hvalid : Scheme.isValid scheme = true
  · have hsplit : Scheme.split? raw.trim = some (scheme, '/' :: '/' :: (front ++ tail)) := by
      simp [Scheme.split?, h.cut_eq, hvalid]
    have hdivide := divide_append h.not_endsReach h.startsAt
    simp only [rebuild, hsplit, hdivide, hvalid, ↓reduceIte]
    cases divide (isSrtScheme scheme) front with
    | error e => rfl
    | ok d => rfl
  · have hsplit : Scheme.split? raw.trim = none := by
      simp [Scheme.split?, h.cut_eq, hvalid]
    simp only [rebuild, hsplit, if_neg hvalid]
    rfl

/-- The tail of an `srt` URL is everything behind the part that decides. -/
theorem text_eq (h : Opens raw scheme front tail) (hsrt : isSrtScheme scheme = true)
    {u : StreamUrl} (hu : rebuild raw = .ok u) :
    u.text = scheme ++ "://".toList ++ (u.authority ++ tail) := by
  obtain ⟨rest, d, hostPort, hrebuilt⟩ := Rebuilt.of_rebuild hu
  have hcut := Text.cut_append (Scheme.not_mem_colon hrebuilt.valid) ('/' :: '/' :: rest)
  rw [← hrebuilt.trim_eq, h.cut_eq, Option.some.injEq, Prod.mk.injEq] at hcut
  obtain ⟨rfl, hrest⟩ := hcut
  simp only [List.cons.injEq, true_and] at hrest
  have hfront : ∀ c ∈ front, endsAuthority c = false := by
    have hfree := h.not_endsReach
    rwa [hsrt] at hfree
  have htail : StartsAt endsAuthority tail := h.startsAt.mono fun _ => endsAuthority_of_endsReach
  -- The credentials of an `srt` URL hold no stop either, so both texts in front end at the first.
  have hparts : ∀ c ∈ ended d.userinfo ++ hostPort, endsAuthority c = false := by
    intro c hc
    rcases List.mem_append.mp hc with hc | hc
    · obtain ⟨info, hinfo, hc⟩ := mem_ended.mp hc
      rcases hc with hc | rfl
      · have hreach := hrebuilt.divided.inReach info hinfo c hc
        rwa [isSrt, hsrt] at hreach
      · rfl
    · exact hrebuilt.divided.noEnd c hc
  have hbreak : (front ++ tail).breakAt endsAuthority = (front, tail) :=
    Text.breakAt_append_of_startsAt hfront htail
  rw [hrest, hrebuilt.divided.rest_eq, ← List.append_assoc,
    Text.breakAt_append_of_startsAt hparts hrebuilt.divided.starts] at hbreak
  have hsame : u.tail = tail := hrebuilt.tail_text.trans (congrArg Prod.snd hbreak)
  rw [StreamUrl.text, hsame, List.append_assoc]

end Opens

/-- Two URLs with the same scheme that go on alike up to the first stop make the same contact, or
fail alike, whatever follows. For `srt` what follows is written at the end as it stands. -/
theorem contact_of_front {raw raw' scheme front tail tail' : Text}
    (h : Opens raw scheme front tail) (h' : Opens raw' scheme front tail') :
    (rebuild raw).map contact = (rebuild raw').map contact ∧
    (isSrtScheme scheme = true → ∀ u, rebuild raw = .ok u →
      u.text = scheme ++ "://".toList ++ (u.authority ++ tail)) := by
  constructor
  · rw [h.map_contact, h'.map_contact]
  · intro hsrt u hu
    exact h.text_eq hsrt hu

/-- Where a URL is divided can be checked character by character. -/
theorem opens_of_all {raw scheme front tail : Text}
    (hraw : raw = scheme ++ "://".toList ++ (front ++ tail)) (htrim : raw.trim = raw)
    (hcolon : ':' ∉ scheme) (hfront : (front.all fun c => decide (c ∉ stops scheme)) = true)
    (htail : (tail.head?.all fun c => decide (c ∈ stops scheme)) = true) :
    Opens raw scheme front tail where
  raw_eq := hraw
  trim_eq := htrim
  noColon := hcolon
  goesOn c hc := of_decide_eq_true (List.all_eq_true.mp hfront c hc)
  ends c hc := of_decide_eq_true ((Option.all_eq_true _ _).mp htail c hc)

/-- Options that look like other credentials and another host, and a bad port in front of a path. -/
theorem contact_of_front_of_options :
    (rebuild "srt://cam:p@host:9000/@evil:1?b#c@d".toList).map contact =
      .ok ⟨some "cam".toList, some "p".toList, "host".toList, some 9000⟩ ∧
    (∀ u, rebuild "srt://cam:p@host:9000/@evil:1?b#c@d".toList = .ok u →
      u.text = "srt://".toList ++ (u.authority ++ "/@evil:1?b#c@d".toList)) ∧
    (rebuild "rtmp://cam@h:x/@evil".toList).map contact = .error (.invalidPort "x".toList) := by
  have hoptions : Opens "srt://cam:p@host:9000/@evil:1?b#c@d".toList "srt".toList
      "cam:p@host:9000".toList "/@evil:1?b#c@d".toList :=
    opens_of_all (by decide) (by decide +kernel) (by decide) (by decide) (by decide)
  have hbare : Opens "srt://cam:p@host:9000".toList "srt".toList "cam:p@host:9000".toList [] :=
    opens_of_all (by decide) (by decide +kernel) (by decide) (by decide) (by decide)
  have hpath : Opens "rtmp://cam@h:x/@evil".toList "rtmp".toList "cam@h:x".toList "/@evil".toList :=
    opens_of_all (by decide) (by decide +kernel) (by decide) (by decide) (by decide)
  have hother : Opens "rtmp://cam@h:x/".toList "rtmp".toList "cam@h:x".toList "/".toList :=
    opens_of_all (by decide) (by decide +kernel) (by decide) (by decide) (by decide)
  obtain ⟨hcontact, htext⟩ := contact_of_front hoptions hbare
  obtain ⟨hfails, -⟩ := contact_of_front hpath hother
  have hknown : (rebuild "srt://cam:p@host:9000".toList).map contact =
      .ok ⟨some "cam".toList, some "p".toList, "host".toList, some 9000⟩ := by decide +kernel
  have hbad : (rebuild "rtmp://cam@h:x/".toList).map contact =
      .error (.invalidPort "x".toList) := by decide +kernel
  exact ⟨hcontact.trans hknown, htext (by decide), hfails.trans hbad⟩

end MediaPerimeter.StreamUrl
