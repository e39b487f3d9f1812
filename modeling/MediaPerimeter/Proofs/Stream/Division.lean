import MediaPerimeter.Proofs.Stream.HostPort

/-!
# How a stream URL is divided

`Divided` says where the parts of a stream URL lie, without the order in which the reader looks for
them: credentials, host and port, and tail, written one after the other, are the text. `divide`
returns a division exactly when it is one of these. All else about reading and rebuilding stream URLs
follows from it.
-/
namespace MediaPerimeter.StreamUrl

open Text (StartsAt)

def IsInner (c : Char) : Prop := c ≠ '@' ∧ endsAuthority c = false

theorem isInner_of_mem {p : Char → Bool} (hp : ['@', '/', '?', '#'].any p = false) {c : Char}
    (h : p c = true) : IsInner c := by
  have hne : ∀ d ∈ ['@', '/', '?', '#'], (c == d) = false := by
    intro d hd
    refine beq_false_of_ne ?_
    rintro rfl
    exact List.any_eq_false.mp hp c hd h
  refine ⟨ne_of_beq_false (hne '@' (by decide)), ?_⟩
  simp only [endsAuthority, hne '/' (by decide), hne '?' (by decide), hne '#' (by decide),
    Bool.or_self]

theorem isInner_of_isDigit {c : Char} (h : c.isDigit = true) : IsInner c :=
  isInner_of_mem (by decide) h

def endsReach (srt : Bool) (c : Char) : Bool := if srt then endsAuthority c else c == '/'

theorem endsAuthority_iff {c : Char} : endsAuthority c = true ↔ c = '/' ∨ c = '?' ∨ c = '#' := by
  simp only [endsAuthority, Bool.or_eq_true, beq_iff_eq, or_assoc]

theorem endsAuthority_of_endsReach {srt : Bool} {c : Char} (h : endsReach srt c = true) :
    endsAuthority c = true := by
  cases srt with
  | true => exact h
  | false =>
    cases eq_of_beq (show (c == '/') = true from h)
    rfl

theorem not_endsReach {srt : Bool} {c : Char} (h : endsAuthority c = false) :
    endsReach srt c = false := by
  rw [← Bool.not_eq_true] at h ⊢
  exact fun hr => h (endsAuthority_of_endsReach hr)

theorem divide_of_clean {srt : Bool} {rest host : Text} {port : Option Nat}
    (h : cleanAuthority? (rest.breakAt endsAuthority).1 = some (host, port)) :
    divide srt rest = .ok ⟨none, host, port, (rest.breakAt endsAuthority).2⟩ := by
  simp only [divide, h]

def divideAfter (userinfo : Option Text) (after : Text) : Except Fault Division :=
  match readHostPort (after.breakAt endsAuthority).1 with
  | .error e => .error e
  | .ok (host, port) => .ok ⟨userinfo, host, port, (after.breakAt endsAuthority).2⟩

theorem divide_of_unclean {srt : Bool} {rest : Text}
    (h : cleanAuthority? (rest.breakAt endsAuthority).1 = none) :
    divide srt rest = match (rest.breakAt (endsReach srt)).1.cutLast '@' with
      | some (info, more) => divideAfter (some info) (more ++ (rest.breakAt (endsReach srt)).2)
      | none => divideAfter none rest := by
  have hreach : (if srt then rest.breakAt endsAuthority else rest.breakAt (· == '/')) =
      rest.breakAt (endsReach srt) := by cases srt <;> rfl
  simp only [divide, h, hreach]
  cases (rest.breakAt (endsReach srt)).1.cutLast '@' <;> rfl

theorem divideAfter_eq_ok_iff {userinfo : Option Text} {after : Text} {d : Division} :
    divideAfter userinfo after = .ok d ↔ d.userinfo = userinfo ∧
      d.tail = (after.breakAt endsAuthority).2 ∧
      readHostPort (after.breakAt endsAuthority).1 = .ok (d.host, d.port) := by
  unfold divideAfter
  obtain ⟨userinfo', host', port', tail'⟩ := d
  cases readHostPort (after.breakAt endsAuthority).1 with
  | error e => simp
  | ok parts =>
    obtain ⟨host, port⟩ := parts
    constructor
    · intro h
      cases h
      exact ⟨rfl, rfl, rfl⟩
    · rintro ⟨rfl, rfl, h⟩
      cases h
      rfl

def ended : Option Text → Text
  | none => []
  | some info => info ++ ['@']

theorem mem_ended {userinfo : Option Text} {c : Char} :
    c ∈ ended userinfo ↔ ∃ info ∈ userinfo, c ∈ info ∨ c = '@' := by
  cases userinfo <;> simp [ended]

theorem ended_append_inj {info info' : Option Text} {t t' : Text} (ht : '@' ∉ t) (ht' : '@' ∉ t')
    (h : ended info ++ t = ended info' ++ t') : info = info' ∧ t = t' := by
  have hcut : ∀ {info : Option Text} {t : Text}, '@' ∉ t →
      (ended info ++ t).cutLast '@' = info.map (·, t) := by
    intro info t ht
    cases info with
    | none => exact Text.cutLast_eq_none_iff.mpr ht
    | some info =>
      rw [ended, List.append_assoc]
      exact Text.cutLast_append ht info
  have hsame := (hcut ht).symm.trans ((congrArg (Text.cutLast '@') h).trans (hcut ht'))
  cases info with
  | none =>
    cases info' with
    | none => exact ⟨rfl, h⟩
    | some info' => cases hsame
  | some info =>
    cases info' with
    | none => cases hsame
    | some info' =>
      cases hsame
      exact ⟨rfl, rfl⟩

/-- Where the parts of a stream URL lie. Credentials may hold anything up to their reach, but they
are such only if what stands before the first `/`, `?` or `#` is no clean authority; and unless the
authority is clean no `@` is left behind it within reach. -/
structure Divided (srt : Bool) (rest : Text) (d : Division) (hostPort : Text) : Prop where
  rest_eq : rest = ended d.userinfo ++ (hostPort ++ d.tail)
  reads : readHostPort hostPort = .ok (d.host, d.port)
  noAt : '@' ∉ hostPort
  noEnd : ∀ c ∈ hostPort, endsAuthority c = false
  starts : StartsAt endsAuthority d.tail
  inReach : ∀ info ∈ d.userinfo, ∀ c ∈ info, endsReach srt c = false
  unclean : d.userinfo ≠ none → cleanAuthority? (rest.breakAt endsAuthority).1 = none
  last : d.userinfo ≠ none ∨ cleanAuthority? hostPort = none →
    '@' ∉ (d.tail.breakAt (endsReach srt)).1

namespace Divided
variable {srt : Bool} {rest : Text} {d : Division} {hostPort : Text}

theorem breakAt_authority (h : Divided srt rest d hostPort) :
    (hostPort ++ d.tail).breakAt endsAuthority = (hostPort, d.tail) :=
  Text.breakAt_append_of_startsAt h.noEnd h.starts

/-- Behind the credentials the reach goes on into the tail. -/
theorem breakAt_reach (h : Divided srt rest d hostPort) : rest.breakAt (endsReach srt) =
    (ended d.userinfo ++ (hostPort ++ (d.tail.breakAt (endsReach srt)).1),
      (d.tail.breakAt (endsReach srt)).2) := by
  have hinfo : ∀ c ∈ ended d.userinfo, endsReach srt c = false := by
    intro c hc
    obtain ⟨info, hinfo, hc⟩ := mem_ended.mp hc
    rcases hc with hc | rfl
    · exact h.inReach info hinfo c hc
    · exact not_endsReach rfl
  rw [h.rest_eq, Text.breakAt_append_of_all hinfo,
    Text.breakAt_append_of_all fun c hc => not_endsReach (h.noEnd c hc)]

/-- The reader finds every division. -/
theorem divide_eq (h : Divided srt rest d hostPort) : divide srt rest = .ok d := by
  have hafter : ∀ u, d.userinfo = u → divideAfter u (hostPort ++ d.tail) = .ok d := by
    rintro _ rfl
    rw [divideAfter_eq_ok_iff, h.breakAt_authority]
    exact ⟨rfl, rfl, h.reads⟩
  cases hu : d.userinfo with
  | none =>
    have hrest : rest = hostPort ++ d.tail := by rw [h.rest_eq, hu]; rfl
    cases hclean : cleanAuthority? hostPort with
    | some parts =>
      obtain ⟨host, port⟩ := parts
      obtain ⟨-, hread, -⟩ := cleanAuthority?_eq_some_iff.mp hclean
      rw [h.reads] at hread
      cases hread
      rw [divide_of_clean (by rw [hrest, h.breakAt_authority, hclean]), hrest, h.breakAt_authority,
        ← hu]
    | none =>
      have hnone : (rest.breakAt (endsReach srt)).1.cutLast '@' = none := by
        rw [Text.cutLast_eq_none_iff, h.breakAt_reach, hu, ended, List.nil_append]
        exact fun hat => (List.mem_append.mp hat).elim h.noAt (h.last (.inr hclean))
      rw [divide_of_unclean (by rw [hrest, h.breakAt_authority, hclean]), hnone, hrest]
      exact hafter none hu
  | some info =>
    have hne : d.userinfo ≠ none := by rw [hu]; exact nofun
    have hmore : '@' ∉ hostPort ++ (d.tail.breakAt (endsReach srt)).1 := fun hat =>
      (List.mem_append.mp hat).elim h.noAt (h.last (.inl hne))
    have hcut : (rest.breakAt (endsReach srt)).1.cutLast '@' =
        some (info, hostPort ++ (d.tail.breakAt (endsReach srt)).1) := by
      rw [h.breakAt_reach, hu, ended, List.append_assoc]
      exact Text.cutLast_append hmore info
    rw [divide_of_unclean (h.unclean hne), hcut, h.breakAt_reach]
    simp only [List.append_assoc, Text.breakAt_append]
    exact hafter (some info) hu

end Divided

/-- What the reader finds is a division. -/
theorem Divided.of_divide {srt : Bool} {rest : Text} {d : Division} (h : divide srt rest = .ok d) :
    ∃ hostPort, Divided srt rest d hostPort := by
  rcases hbreak : rest.breakAt endsAuthority with ⟨authority, tail⟩
  obtain ⟨hrest, hstop, hstarts⟩ := Text.breakAt_eq_iff.mp hbreak
  cases hclean : cleanAuthority? authority with
  | some parts =>
    obtain ⟨host, port⟩ := parts
    obtain ⟨hat, hreads, -⟩ := cleanAuthority?_eq_some_iff.mp hclean
    rw [divide_of_clean (by rw [hbreak, hclean]), hbreak] at h
    cases h
    refine ⟨authority, hrest, hreads, hat, hstop, hstarts, nofun, nofun, ?_⟩
    rintro (hne | hnone)
    · cases hne rfl
    · rw [hclean] at hnone
      cases hnone
  | none =>
    rw [divide_of_unclean (by rw [hbreak, hclean])] at h
    rcases hreach : rest.breakAt (endsReach srt) with ⟨reach, beyond⟩
    obtain ⟨hrest', hkeep, hbeyond⟩ := Text.breakAt_eq_iff.mp hreach
    cases hcut : reach.cutLast '@' with
    | none =>
      rw [hreach, hcut] at h
      obtain ⟨huser, htail, hreads⟩ := divideAfter_eq_ok_iff.mp h
      rw [hbreak] at htail hreads
      dsimp only at htail hreads
      -- The authority lies within reach, so no `@` is in it.
      have hat : '@' ∉ authority ++ (tail.breakAt (endsReach srt)).1 := by
        rw [hrest, Text.breakAt_append_of_all fun c hc => not_endsReach (hstop c hc)] at hreach
        cases hreach
        exact Text.cutLast_eq_none_iff.mp hcut
      refine ⟨authority, ?_, hreads, fun hm => hat (List.mem_append_left _ hm), hstop, htail ▸ hstarts,
        ?_, fun hne => absurd huser hne, fun _ hm => hat (List.mem_append_right _ (htail ▸ hm))⟩
      · rw [huser, htail, ended, List.nil_append, hrest]
      · rw [huser]
        exact nofun
    | some parts =>
      obtain ⟨info, more⟩ := parts
      rw [hreach, hcut] at h
      obtain ⟨huser, htail, hreads⟩ := divideAfter_eq_ok_iff.mp h
      obtain ⟨rfl, hmore⟩ := Text.cutLast_eq_some_iff.mp hcut
      rcases hpart : more.breakAt endsAuthority with ⟨hostPort, left⟩
      obtain ⟨rfl, hstop', hleft⟩ := Text.breakAt_eq_iff.mp hpart
      rw [Text.breakAt_append_startsAt (hbeyond.mono fun _ => endsAuthority_of_endsReach), hpart]
        at htail hreads
      dsimp only at htail hreads
      have htailReach : d.tail.breakAt (endsReach srt) = (left, beyond) := by
        rw [htail]
        exact Text.breakAt_append_of_startsAt (fun c hc => hkeep c (by simp [hc])) hbeyond
      refine ⟨hostPort, ?_, hreads, fun hm => hmore (List.mem_append_left _ hm), hstop', ?_, ?_, ?_, ?_⟩
      · rw [huser, htail, ended, hrest']
        simp
      · rw [htail]
        exact hleft.append (hbeyond.mono fun _ => endsAuthority_of_endsReach)
      · rw [huser]
        rintro _ ⟨⟩ c hc
        exact hkeep c (List.mem_append_left _ hc)
      · intro _
        rw [hbreak, hclean]
      · intro _ hm
        rw [htailReach] at hm
        exact hmore (List.mem_append_right _ hm)

theorem divide_eq_ok_iff {srt : Bool} {rest : Text} {d : Division} :
    divide srt rest = .ok d ↔ ∃ hostPort, Divided srt rest d hostPort :=
  ⟨Divided.of_divide, fun ⟨_, h⟩ => h.divide_eq⟩

end MediaPerimeter.StreamUrl
