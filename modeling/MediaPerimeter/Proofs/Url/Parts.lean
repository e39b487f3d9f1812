import MediaPerimeter.Proofs.Text.Cut
import MediaPerimeter.Url.Parts

/-!
# The outer parts, in front and behind

Which texts have a scheme, and which tail has which path, query and fragment: in each case the parts
one after the other, with every mark at the first place where it can stand.
-/
namespace MediaPerimeter

open Text (part)

theorem Scheme.not_mem_colon {scheme : Text} (h : Scheme.isValid scheme = true) : ':' ∉ scheme := by
  cases scheme with
  | nil => cases h
  | cons c rest =>
    simp only [Scheme.isValid, Bool.and_eq_true, List.all_eq_true] at h
    rintro hc
    rcases List.mem_cons.mp hc with rfl | hc
    · exact absurd h.1 (by decide)
    · exact absurd (h.2 ':' hc) (by decide)

theorem Scheme.split?_eq_some_iff {t scheme rest : Text} :
    Scheme.split? t = some (scheme, rest) ↔ t = scheme ++ ':' :: rest ∧ Scheme.isValid scheme = true := by
  unfold Scheme.split?
  constructor
  · intro h
    obtain ⟨⟨a, b⟩, hcut, hvalid⟩ := Option.bind_eq_some_iff.mp h
    by_cases hv : Scheme.isValid a = true
    · simp only [hv, ↓reduceIte] at hvalid
      cases hvalid
      exact ⟨(Text.cut_eq_some_iff.mp hcut).1, hv⟩
    · simp only [hv] at hvalid
      cases hvalid
  · rintro ⟨rfl, hv⟩
    rw [Text.cut_append (Scheme.not_mem_colon hv)]
    simp only [Option.bind_eq_bind, Option.bind_some, hv, ↓reduceIte]

/-- A text with a scheme has no blank in front. -/
theorem Scheme.trim_eq_self {scheme rest : Text} (h : Scheme.isValid scheme = true)
    (hlast : ∀ c ∈ (scheme ++ rest).getLast?, isBlank c = false) :
    (scheme ++ rest).trim = scheme ++ rest := by
  refine Text.trim_eq_self ?_ hlast
  cases scheme with
  | nil => cases h
  | cons first more =>
    intro c hc
    cases hc
    simp only [Scheme.isValid, Bool.and_eq_true] at h
    exact Text.isBlank_of_isAlphanum (by simp only [Char.isAlphanum, h.1, Bool.true_or])

/-- A text is divided at the first mark, if it has one. -/
theorem Text.cut_part {mark : Char} {before : Text} (h : mark ∉ before) :
    ∀ after : Option Text, Text.cut mark (before ++ part mark after) = after.map (before, ·)
  | none => by rw [part, List.append_nil, Text.cut_eq_none_iff.mpr h, Option.map_none]
  | some after => by rw [part, Text.cut_append h, Option.map_some]

theorem Tail.divideQuery_eq_iff {t path : Text} {query : Option Text} :
    Tail.divideQuery t = (path, query) ↔ t = path ++ part '?' query ∧ '?' ∉ path := by
  unfold Tail.divideQuery
  constructor
  · intro h
    split at h
    · rename_i hcut
      cases h
      exact Text.cut_eq_some_iff.mp hcut
    · rename_i hcut
      cases h
      exact ⟨(List.append_nil t).symm, Text.cut_eq_none_iff.mp hcut⟩
  · rintro ⟨rfl, hpath⟩
    rw [Text.cut_part hpath]
    cases query with
    | none => rw [Option.map_none, part, List.append_nil]
    | some q => rfl

theorem Tail.divide_eq_iff {t : Text} {tail : Tail} :
    Tail.divide t = tail ↔
      t = tail.path ++ part '?' tail.query ++ part '#' tail.fragment ∧
      '?' ∉ tail.path ∧ '#' ∉ tail.path ++ part '?' tail.query := by
  obtain ⟨path, query, fragment⟩ := tail
  dsimp only
  constructor
  · intro h
    unfold Tail.divide at h
    cases hcut : t.cut '#' with
    | none =>
      rw [hcut] at h
      cases h
      obtain ⟨ht, hpath⟩ := Tail.divideQuery_eq_iff.mp (Eq.refl (Tail.divideQuery t))
      rw [← ht]
      exact ⟨(List.append_nil t).symm, hpath, Text.cut_eq_none_iff.mp hcut⟩
    | some parts =>
      obtain ⟨before, after⟩ := parts
      rw [hcut] at h
      cases h
      obtain ⟨rfl, hbefore⟩ := Text.cut_eq_some_iff.mp hcut
      obtain ⟨ht, hpath⟩ := Tail.divideQuery_eq_iff.mp (Eq.refl (Tail.divideQuery before))
      rw [← ht]
      exact ⟨rfl, hpath, hbefore⟩
  · rintro ⟨rfl, hpath, hhash⟩
    have hquery : Tail.divideQuery (path ++ part '?' query) = (path, query) :=
      Tail.divideQuery_eq_iff.mpr ⟨rfl, hpath⟩
    rw [Tail.divide, Text.cut_part hhash]
    cases fragment with
    | none =>
      have hnone : part '#' none = [] := rfl
      simp only [Option.map_none, hnone, List.append_nil, hquery]
    | some f => simp only [Option.map_some, hquery]

end MediaPerimeter
