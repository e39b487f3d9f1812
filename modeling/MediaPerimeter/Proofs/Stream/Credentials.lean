import MediaPerimeter.Proofs.Text.Spelling
import MediaPerimeter.Stream.Url

/-!
# Escaped credentials

Escaped credentials consist of characters that delimit nothing, whatever bytes they stand for, and
escaping them once more changes nothing.
-/
namespace MediaPerimeter.StreamUrl

open Text (part)

def inComponent (c : Char) : Bool := c.isAlphanum || "-_.~$&+,;=%".toList.contains c

private theorem kept_ascii : ∀ i : Fin 256, keptInUserinfo (.ofNat i.val) = true →
    i.val < 128 ∧ i.val ≠ 0x25 ∧ inComponent (Char.ofNat i.val) = true := by
  decide +kernel

private theorem of_keptInUserinfo {b : UInt8} (h : keptInUserinfo b = true) :
    b.toNat < 128 ∧ b.toNat ≠ 0x25 ∧ inComponent (Char.ofNat b.toNat) = true :=
  kept_ascii ⟨b.toNat, b.toNat_lt⟩ (by rwa [UInt8.ofNat_toNat])

theorem plain_keptInUserinfo : Percent.Plain keptInUserinfo := by
  intro b hb
  obtain ⟨hlt, hne, -⟩ := of_keptInUserinfo hb
  refine ⟨hlt, ?_⟩
  rintro rfl
  exact hne rfl

private theorem inComponent_capital : ∀ i : Fin 16, inComponent (Hex.capital i.val) = true := by
  decide

theorem inComponent_of_mem_encode {bs : Bytes} {c : Char}
    (h : c ∈ Percent.encode keptInUserinfo bs) : inComponent c = true := by
  obtain ⟨b, -, hc⟩ := List.mem_flatMap.mp h
  have hb := b.toNat_lt
  split at hc
  · rename_i hkeep
    cases List.mem_singleton.mp hc
    exact (of_keptInUserinfo hkeep).2.2
  · simp only [Percent.escape, List.mem_cons, List.not_mem_nil, or_false] at hc
    rcases hc with rfl | rfl | rfl
    · decide
    · exact inComponent_capital ⟨b.toNat / 16, by omega⟩
    · exact inComponent_capital ⟨b.toNat % 16, by omega⟩

theorem exists_escapeComponent (t : Text) :
    ∃ bs, escapeComponent t = Percent.encode keptInUserinfo bs := ⟨_, rfl⟩

theorem inComponent_of_mem_escapeComponent {t : Text} {c : Char} (h : c ∈ escapeComponent t) :
    inComponent c = true := by
  obtain ⟨bs, hbs⟩ := exists_escapeComponent t
  exact inComponent_of_mem_encode (hbs ▸ h)

theorem escapeComponent_escapeComponent (t : Text) :
    escapeComponent (escapeComponent t) = escapeComponent t := by
  obtain ⟨bs, hbs⟩ := exists_escapeComponent t
  rw [hbs, escapeComponent]
  simp only [Percent.isEscaped_encode plain_keptInUserinfo, ↓reduceIte,
    Percent.decode_encode plain_keptInUserinfo]

theorem ne_of_inComponent {c d : Char} (h : inComponent c = true) (hd : inComponent d = false) :
    c ≠ d := by
  rintro rfl
  rw [hd] at h
  cases h

inductive Escaped : Option Text → Option Text → Option Text → Prop
  | absent : Escaped none none none
  | named {info : Text} (h : ':' ∉ info) : Escaped (some info) (some (escapeComponent info)) none
  | both {name : Text} (h : ':' ∉ name) (password : Text) :
      Escaped (some (name ++ ':' :: password)) (some (escapeComponent name))
        (some (escapeComponent password))

theorem Escaped.of_credentials {info name password : Option Text}
    (h : credentials info = (name, password)) : Escaped info name password := by
  cases info with
  | none =>
    cases h
    exact .absent
  | some info =>
    unfold credentials at h
    cases hcut : info.cut ':' with
    | none =>
      simp only [hcut] at h
      cases h
      exact .named (Text.cut_eq_none_iff.mp hcut)
    | some parts =>
      obtain ⟨before, after⟩ := parts
      simp only [hcut] at h
      cases h
      obtain ⟨rfl, hbefore⟩ := Text.cut_eq_some_iff.mp hcut
      exact .both hbefore after

def login (name password : Option Text) : Option Text := name.map (· ++ part ':' password)

namespace Escaped
variable {info name password : Option Text}

theorem login_eq_none_iff (h : Escaped info name password) :
    login name password = none ↔ info = none := by
  cases h <;> simp [login]

/-- Written credentials hold escaped characters, and one colon at most. -/
theorem of_mem_login (h : Escaped info name password) {t : Text} (ht : t ∈ login name password)
    {c : Char} (hc : c ∈ t) : inComponent c = true ∨ c = ':' := by
  cases h with
  | absent => cases ht
  | named =>
    cases ht
    rcases List.mem_append.mp hc with hc | hc
    · exact .inl (inComponent_of_mem_escapeComponent hc)
    · cases hc
  | both =>
    cases ht
    rcases List.mem_append.mp hc with hc | hc
    · exact .inl (inComponent_of_mem_escapeComponent hc)
    · rcases List.mem_cons.mp hc with rfl | hc
      · exact .inr rfl
      · exact .inl (inComponent_of_mem_escapeComponent hc)

/-- The credentials that were written are read again, and not escaped twice. -/
theorem credentials_login (h : Escaped info name password) :
    credentials (login name password) = (name, password) := by
  have hcolon : ∀ t, ':' ∉ escapeComponent t := fun t ht =>
    ne_of_inComponent (inComponent_of_mem_escapeComponent ht) (by decide) rfl
  cases h with
  | absent => rfl
  | @named info =>
    simp only [login, Option.map_some, part, List.append_nil, credentials,
      Text.cut_eq_none_iff.mpr (hcolon info), escapeComponent_escapeComponent]
  | @both before _ after =>
    simp only [login, Option.map_some, part, credentials, Text.cut_append (hcolon before),
      escapeComponent_escapeComponent]

end Escaped
end MediaPerimeter.StreamUrl
