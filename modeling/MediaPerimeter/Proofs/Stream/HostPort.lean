import MediaPerimeter.Proofs.Text.Cut
import MediaPerimeter.Proofs.Text.Escape
import MediaPerimeter.Stream.Url

/-!
# Host and port of a stream URL

Which texts read as host and port, and as which. A host stands as written in front of the port, and
the port may be written in another way; what was read is read again however it is written.
-/
namespace MediaPerimeter.StreamUrl

open Text (part)

/-- Hosts, and what may be written behind them: behind brackets anything, and behind a name only what
has no colon of its own, since the last colon is the one that counts. -/
inductive Joined : Text → Option Text → Prop
  | bracketed {inside : Text} (h : ']' ∉ inside) (port : Option Text) :
      Joined ('[' :: inside ++ [']']) port
  | named {host : Text} {port : Option Text} (hhost : host.head? ≠ some '[')
      (hport : ∀ q ∈ port, ':' ∉ q) (hnone : port = none → ':' ∉ host) : Joined host port

/-- A text in which a bracket opens and closes, divided behind the bracket that closes first. -/
private theorem bracketed_of_cut {t inside after : Text} (hhead : t.head? = some '[')
    (hcut : t.cut ']' = some (inside, after)) :
    ∃ inner, inside = '[' :: inner ∧ ']' ∉ inner ∧ t = inside ++ [']'] ++ after := by
  obtain ⟨rfl, hinside⟩ := Text.cut_eq_some_iff.mp hcut
  cases inside with
  | nil => simp at hhead
  | cons c inner =>
    have hc : c = '[' := by simpa using hhead
    exact ⟨inner, by rw [hc], fun h => hinside (List.mem_cons_of_mem c h), by simp⟩

theorem Joined.of_divideHost {t host : Text} {port : Option Text}
    (h : divideHost t = .ok (host, port)) : t = host ++ part ':' port ∧ Joined host port := by
  unfold divideHost at h
  split at h
  · rename_i hhead
    split at h
    · cases h
    · rename_i inside hcut
      obtain ⟨inner, rfl, hinner, ht⟩ := bracketed_of_cut hhead hcut
      cases h
      exact ⟨ht, .bracketed hinner none⟩
    · rename_i inside q hcut
      obtain ⟨inner, rfl, hinner, ht⟩ := bracketed_of_cut hhead hcut
      cases h
      exact ⟨ht, .bracketed hinner (some q)⟩
    · cases h
  · rename_i hhead
    split at h
    · rename_i a b hcut
      obtain ⟨rfl, hb⟩ := Text.cutLast_eq_some_iff.mp hcut
      cases h
      refine ⟨rfl, .named (fun ha => hhead ?_) (fun q hq => ?_) nofun⟩
      · rw [List.head?_append, ha]
        rfl
      · cases hq
        exact hb
    · rename_i hcut
      cases h
      exact ⟨(List.append_nil t).symm,
        .named hhead nofun fun _ => Text.cutLast_eq_none_iff.mp hcut⟩

theorem Joined.divideHost_eq {host : Text} {port : Option Text} (h : Joined host port) :
    divideHost (host ++ part ':' port) = .ok (host, port) := by
  cases h with
  | @bracketed inside h =>
    have hcut : Text.cut ']' ('[' :: inside ++ [']'] ++ part ':' port) =
        some ('[' :: inside, part ':' port) := by
      have hmem : ']' ∉ '[' :: inside := by simpa using h
      rw [List.append_assoc]
      exact Text.cut_append hmem (part ':' port)
    have hhead : ('[' :: inside ++ [']'] ++ part ':' port).head? = some '[' := rfl
    rw [divideHost, if_pos hhead, hcut]
    cases port <;> rfl
  | named hhost hport hnone =>
    have hhead : (host ++ part ':' port).head? ≠ some '[' := by
      cases host with
      | nil => cases port <;> simp [part]
      | cons c rest => exact hhost
    rw [divideHost, if_neg hhead]
    cases port with
    | none => rw [part, List.append_nil, Text.cutLast_eq_none_iff.mpr (hnone rfl)]
    | some q => rw [part, Text.cutLast_append (hport q rfl)]

theorem divideHost_eq_ok_iff {t host : Text} {port : Option Text} :
    divideHost t = .ok (host, port) ↔ t = host ++ part ':' port ∧ Joined host port :=
  ⟨Joined.of_divideHost, fun h => h.1 ▸ h.2.divideHost_eq⟩

/-- Another port text may stand in the place of one that was read. -/
theorem Joined.replace {host : Text} {p q : Option Text} (h : Joined host p)
    (hsome : q.isSome = p.isSome) (hq : ∀ x ∈ q, ':' ∉ x) : Joined host q := by
  cases h with
  | bracketed h => exact .bracketed h q
  | named hhost _ hnone =>
    refine .named hhost hq fun h => hnone ?_
    cases h
    exact Option.isSome_eq_false_iff.mp hsome.symm |> Option.isNone_iff_eq_none.mp

inductive PortRead : Option Text → Option Nat → Prop
  | absent : PortRead none none
  | present {q : Text} {n : Nat} (h : Decimal.readUpTo? 65535 q = some n) :
      PortRead (some q) (some n)

theorem PortRead.of_readHostPort {t host : Text} {port : Option Nat}
    (h : readHostPort t = .ok (host, port)) :
    ∃ p, divideHost t = .ok (host, p) ∧ host ≠ [] ∧ host ≠ ['[', ']'] ∧ PortRead p port := by
  unfold readHostPort at h
  cases hdiv : divideHost t with
  | error f => rw [hdiv] at h; cases h
  | ok parts =>
    obtain ⟨host', p⟩ := parts
    rw [hdiv] at h
    simp only [bind, Except.bind] at h
    by_cases hempty : host' = [] ∨ host' = ['[', ']']
    · rw [if_pos hempty] at h
      cases h
    · rw [if_neg hempty] at h
      obtain ⟨hne, hbrackets⟩ := not_or.mp hempty
      cases p with
      | none => cases h; exact ⟨none, rfl, hne, hbrackets, .absent⟩
      | some q =>
        cases hq : Decimal.readUpTo? 65535 q with
        | none => simp only [hq] at h; cases h
        | some n => simp only [hq] at h; cases h; exact ⟨some q, rfl, hne, hbrackets, .present hq⟩

theorem PortRead.readHostPort_eq {t host : Text} {p : Option Text} {port : Option Nat}
    (h : PortRead p port) (hdiv : divideHost t = .ok (host, p)) (hne : host ≠ [])
    (hbrackets : host ≠ ['[', ']']) : readHostPort t = .ok (host, port) := by
  have hempty : ¬(host = [] ∨ host = ['[', ']']) := not_or.mpr ⟨hne, hbrackets⟩
  rw [readHostPort, hdiv]
  simp only [bind, Except.bind, if_neg hempty]
  cases h with
  | absent => rfl
  | present hq => simp only [hq]; rfl

/-- What reads as host and port is the host as written and, behind a colon, the text of the port. -/
theorem readHostPort_eq_ok_iff {t host : Text} {port : Option Nat} :
    readHostPort t = .ok (host, port) ↔ ∃ p, t = host ++ part ':' p ∧ Joined host p ∧
      host ≠ [] ∧ host ≠ ['[', ']'] ∧ PortRead p port := by
  constructor
  · intro h
    obtain ⟨p, hdiv, hne, hbrackets, hp⟩ := PortRead.of_readHostPort h
    obtain ⟨ht, hjoined⟩ := divideHost_eq_ok_iff.mp hdiv
    exact ⟨p, ht, hjoined, hne, hbrackets, hp⟩
  · rintro ⟨p, ht, hjoined, hne, hbrackets, hp⟩
    exact hp.readHostPort_eq (divideHost_eq_ok_iff.mpr ⟨ht, hjoined⟩) hne hbrackets

def written (host : Text) (port : Option Nat) : Text := host ++ part ':' (port.map Decimal.text)

theorem joined_written {t host : Text} {port : Option Nat}
    (h : readHostPort t = .ok (host, port)) : Joined host (port.map Decimal.text) := by
  obtain ⟨p, -, hjoined, -, -, hp⟩ := readHostPort_eq_ok_iff.mp h
  refine hjoined.replace ?_ ?_
  · cases hp <;> rfl
  · intro x hx hcolon
    obtain ⟨n, -, rfl⟩ := Option.map_eq_some_iff.mp hx
    exact absurd (Decimal.isDigit_of_mem_text hcolon) (by decide)

/-- Host and port that were read are read again as they are written. -/
theorem readHostPort_written {t host : Text} {port : Option Nat}
    (h : readHostPort t = .ok (host, port)) : readHostPort (written host port) = .ok (host, port) := by
  obtain ⟨p, -, -, hne, hbrackets, hp⟩ := readHostPort_eq_ok_iff.mp h
  refine readHostPort_eq_ok_iff.mpr ⟨_, rfl, joined_written h, hne, hbrackets, ?_⟩
  cases hp with
  | absent => exact .absent
  | present hq => exact .present (Decimal.readUpTo?_text (Decimal.le_of_readUpTo? hq))

theorem eq_of_readHostPort_none {t host : Text} (h : readHostPort t = .ok (host, none)) :
    t = host := by
  obtain ⟨p, rfl, -, -, -, hp⟩ := readHostPort_eq_ok_iff.mp h
  cases hp
  exact List.append_nil host

theorem mem_written {t host : Text} {port : Option Nat} (h : readHostPort t = .ok (host, port))
    {c : Char} (hc : c ∈ written host port) : c ∈ t ∨ c = ':' ∨ c.isDigit = true := by
  obtain ⟨p, rfl, -⟩ := readHostPort_eq_ok_iff.mp h
  rcases List.mem_append.mp hc with hc | hc
  · exact .inl (List.mem_append_left _ hc)
  · cases port with
    | none => cases hc
    | some n =>
      rcases List.mem_cons.mp hc with rfl | hc
      · exact .inr (.inl rfl)
      · exact .inr (.inr (Decimal.isDigit_of_mem_text hc))

theorem cleanAuthority?_eq_some_iff {t host : Text} {port : Option Nat} :
    cleanAuthority? t = some (host, port) ↔ '@' ∉ t ∧ readHostPort t = .ok (host, port) ∧
      (port.isSome = true ∨ (Address.ofText? host.unbracket).isSome = true) := by
  unfold cleanAuthority?
  by_cases hat : '@' ∈ t
  · simp [hat]
  · rw [if_neg hat]
    cases hread : readHostPort t with
    | error f => simp
    | ok parts =>
      obtain ⟨host', port'⟩ := parts
      simp only [Bool.or_eq_true]
      split
      · rename_i hclean
        constructor
        · intro h
          cases h
          exact ⟨hat, rfl, hclean⟩
        · rintro ⟨-, h, -⟩
          cases h
          rfl
      · rename_i hclean
        constructor
        · intro h
          cases h
        · rintro ⟨-, h, hc⟩
          cases h
          exact absurd hc hclean

end MediaPerimeter.StreamUrl
