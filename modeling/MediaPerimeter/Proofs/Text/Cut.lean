import MediaPerimeter.Text.Blank
import Mathlib.Data.List.TakeWhile

/-!
# Cutting text apart

What the operations that cut a text say about the text as a whole: each is undone by writing the
parts one after the other, and the cut falls where it does for every text of that form.
-/
namespace MediaPerimeter.Text

def StartsAt (stop : Char → Bool) (t : Text) : Prop := ∀ c ∈ t.head?, stop c = true

instance (stop : Char → Bool) (t : Text) : Decidable (StartsAt stop t) :=
  decidable_of_iff (t.head?.all stop = true) (by cases t <;> simp [StartsAt])

theorem StartsAt.mono {stop wider : Char → Bool} {t : Text} (h : StartsAt stop t)
    (hw : ∀ c, stop c = true → wider c = true) : StartsAt wider t := fun c hc => hw c (h c hc)

theorem StartsAt.append {stop : Char → Bool} {a b : Text} (ha : StartsAt stop a)
    (hb : StartsAt stop b) : StartsAt stop (a ++ b) := by
  cases a with
  | nil => exact hb
  | cons c rest => exact ha

theorem startsAt_dropWhile (stop : Char → Bool) (t : Text) :
    StartsAt stop (t.dropWhile (!stop ·)) := by
  intro c hc
  have h := List.head?_dropWhile_not (!stop ·) t
  rw [Option.mem_def.mp hc] at h
  simpa using h

theorem breakAt_append_of_startsAt {stop : Char → Bool} {a b : Text}
    (ha : ∀ c ∈ a, stop c = false) (hb : StartsAt stop b) : breakAt stop (a ++ b) = (a, b) := by
  have hkeep : ∀ c ∈ a, (!stop c) = true := fun c hc => by rw [ha c hc, Bool.not_false]
  have htake : b.takeWhile (!stop ·) = [] := by
    cases b with
    | nil => rfl
    | cons c rest => exact List.takeWhile_cons_of_neg (by simp [hb c rfl])
  have hdrop : b.dropWhile (!stop ·) = b := by
    cases b with
    | nil => rfl
    | cons c rest => exact List.dropWhile_cons_of_neg (by simp [hb c rfl])
  rw [breakAt, List.takeWhile_append_of_pos hkeep, List.dropWhile_append_of_pos hkeep, htake, hdrop,
    List.append_nil]

theorem breakAt_eq_iff {stop : Char → Bool} {t a b : Text} :
    breakAt stop t = (a, b) ↔ t = a ++ b ∧ (∀ c ∈ a, stop c = false) ∧ StartsAt stop b := by
  constructor
  · intro h
    cases h
    refine ⟨List.takeWhile_append_dropWhile.symm, ?_, startsAt_dropWhile stop t⟩
    intro c hc
    simpa using List.mem_takeWhile_imp hc
  · rintro ⟨rfl, ha, hb⟩
    exact breakAt_append_of_startsAt ha hb

/-- The same for a run of characters that is told by what they are and not by what ends it. -/
theorem takeWhile_of_startsAt {p : Char → Bool} {a b : Text} (ha : ∀ c ∈ a, p c = true)
    (hb : StartsAt (!p ·) b) : (a ++ b).takeWhile p = a ∧ (a ++ b).dropWhile p = b := by
  have hbreak : breakAt (!p ·) (a ++ b) = (a, b) :=
    breakAt_append_of_startsAt (fun c hc => by simp [ha c hc]) hb
  simpa [breakAt] using hbreak

theorem breakAt_append_of_all {stop : Char → Bool} {a : Text} (ha : ∀ c ∈ a, stop c = false)
    (b : Text) : breakAt stop (a ++ b) = (a ++ (breakAt stop b).1, (breakAt stop b).2) := by
  have hkeep : ∀ c ∈ a, (!stop c) = true := fun c hc => by rw [ha c hc, Bool.not_false]
  rw [breakAt, List.takeWhile_append_of_pos hkeep, List.dropWhile_append_of_pos hkeep]
  rfl

theorem breakAt_append_startsAt {stop : Char → Bool} {b : Text} (hb : StartsAt stop b) (a : Text) :
    breakAt stop (a ++ b) = ((breakAt stop a).1, (breakAt stop a).2 ++ b) := by
  rcases ha : breakAt stop a with ⟨kept, rest⟩
  obtain ⟨rfl, hkeep, hstart⟩ := breakAt_eq_iff.mp ha
  exact breakAt_eq_iff.mpr ⟨List.append_assoc .., hkeep, hstart.append hb⟩

theorem takeWhile_append {c : Char} {a b : Text} (ha : c ∉ a)
    (hb : b = [] ∨ b.head? = some c) : (a ++ b).takeWhile (· != c) = a := by
  have hkeep : ∀ x ∈ a, (x != c) = true := fun x hx => bne_iff_ne.mpr fun he => ha (he ▸ hx)
  rw [List.takeWhile_append_of_pos hkeep]
  rcases hb with rfl | hc
  · rw [List.takeWhile_nil, List.append_nil]
  · obtain ⟨tail, rfl⟩ := List.head?_eq_some_iff.mp hc
    rw [List.takeWhile_cons_of_neg (by simp), List.append_nil]

theorem cut_append {c : Char} {a : Text} (ha : c ∉ a) (b : Text) :
    cut c (a ++ c :: b) = some (a, b) := by
  have hkeep : ∀ x ∈ a, (x != c) = true := fun x hx => bne_iff_ne.mpr fun he => ha (he ▸ hx)
  unfold cut
  rw [List.dropWhile_append_of_pos hkeep, List.dropWhile_cons_of_neg (by simp)]
  simp only
  rw [takeWhile_append ha (.inr rfl)]

theorem cut_eq_none_iff {c : Char} {t : Text} : t.cut c = none ↔ c ∉ t := by
  constructor
  · intro h hc
    obtain ⟨a, b, rfl, ha⟩ := List.eq_append_cons_of_mem hc
    rw [cut_append ha] at h
    cases h
  · intro h
    have hkeep : ∀ x ∈ t, (x != c) = true := fun x hx => bne_iff_ne.mpr fun he => h (he ▸ hx)
    have hdrop : t.dropWhile (· != c) = [] := by
      rw [← List.append_nil t, List.dropWhile_append_of_pos hkeep, List.dropWhile_nil]
    rw [cut, hdrop]

theorem cut_eq_some_iff {c : Char} {t a b : Text} :
    t.cut c = some (a, b) ↔ t = a ++ c :: b ∧ c ∉ a := by
  constructor
  · intro h
    have hc : c ∈ t := by
      by_contra hn
      rw [cut_eq_none_iff.mpr hn] at h
      cases h
    obtain ⟨a', b', rfl, ha⟩ := List.eq_append_cons_of_mem hc
    rw [cut_append ha] at h
    cases h
    exact ⟨rfl, ha⟩
  · rintro ⟨rfl, ha⟩
    exact cut_append ha b

theorem cutLast_append {c : Char} {b : Text} (hb : c ∉ b) (a : Text) :
    cutLast c (a ++ c :: b) = some (a, b) := by
  have hrev : (a ++ c :: b).reverse = b.reverse ++ c :: a.reverse := by simp
  rw [cutLast, hrev, cut_append (by simpa using hb)]
  simp

theorem cutLast_eq_none_iff {c : Char} {t : Text} : t.cutLast c = none ↔ c ∉ t := by
  rw [cutLast, Option.map_eq_none_iff, cut_eq_none_iff, List.mem_reverse]

theorem cutLast_eq_some_iff {c : Char} {t a b : Text} :
    t.cutLast c = some (a, b) ↔ t = a ++ c :: b ∧ c ∉ b := by
  constructor
  · intro h
    obtain ⟨⟨x, y⟩, hcut, hp⟩ := Option.map_eq_some_iff.mp h
    cases hp
    obtain ⟨ht, hx⟩ := cut_eq_some_iff.mp hcut
    refine ⟨?_, by simpa using hx⟩
    rw [← List.reverse_reverse t, ht]
    simp
  · rintro ⟨rfl, hb⟩
    exact cutLast_append hb a

theorem split_cons_self (c : Char) (t : Text) : split c (c :: t) = [] :: split c t := by
  rw [split, if_pos rfl]

theorem split_of_not_mem {c : Char} {a : Text} (ha : c ∉ a) : split c a = [a] := by
  induction a with
  | nil => rfl
  | cons x a ih =>
    have hx : x ≠ c := fun he => ha (he ▸ List.mem_cons_self)
    rw [split, if_neg hx, ih fun hmem => ha (List.mem_cons_of_mem x hmem)]

theorem split_append (c : Char) (a b : Text) : split c (a ++ c :: b) = split c a ++ split c b := by
  induction a with
  | nil => exact split_cons_self c b
  | cons x a ih =>
    by_cases hx : x = c
    · subst hx
      rw [List.cons_append, split_cons_self, split_cons_self, ih, List.cons_append]
    · rw [List.cons_append, split, if_neg hx, ih, split, if_neg hx]
      cases hsplit : split c a with
      | nil => exact absurd hsplit (split_ne_nil c a)
      | cons part parts => rfl

theorem not_mem_of_mem_split {c : Char} {t part : Text} (h : part ∈ split c t) : c ∉ part := by
  induction ht : t.length using Nat.strong_induction_on generalizing t with
  | _ n ih =>
    by_cases hc : c ∈ t
    · obtain ⟨a, b, rfl, ha⟩ := List.eq_append_cons_of_mem hc
      rw [split_append, split_of_not_mem ha] at h
      rcases List.mem_cons.mp h with rfl | h
      · exact ha
      · rw [List.length_append, List.length_cons] at ht
        exact ih b.length (by omega) h rfl
    · rw [split_of_not_mem hc, List.mem_singleton] at h
      rwa [h]

theorem split_eq_singleton {c : Char} {t a : Text} (h : split c t = [a]) : t = a := by
  by_cases hc : c ∈ t
  · obtain ⟨b, d, rfl, hb⟩ := List.eq_append_cons_of_mem hc
    rw [split_append, split_of_not_mem hb] at h
    exact absurd (List.cons.inj h).2 (split_ne_nil c d)
  · rw [split_of_not_mem hc] at h
    exact (List.cons.inj h).1

/-- Three texts are the parts of what they make up if it has no more. -/
theorem eq_of_split_three {c : Char} {a b d x y z : Text}
    (h : split c (a ++ c :: (b ++ c :: d)) = [x, y, z]) : a = x ∧ b = y ∧ d = z := by
  rw [split_append, split_append] at h
  have hone : ∀ t, ∃ part parts, split c t = part :: parts := fun t =>
    List.exists_cons_of_ne_nil (split_ne_nil c t)
  obtain ⟨a', as, ha⟩ := hone a
  obtain ⟨b', bs, hb⟩ := hone b
  obtain ⟨d', ds, hd⟩ := hone d
  have hlength := congrArg List.length h
  rw [ha, hb, hd] at hlength h
  simp only [List.length_append, List.length_cons, List.length_nil] at hlength
  obtain rfl : as = [] := List.length_eq_zero_iff.mp (by omega)
  obtain rfl : bs = [] := List.length_eq_zero_iff.mp (by omega)
  obtain rfl : ds = [] := List.length_eq_zero_iff.mp (by omega)
  cases h
  exact ⟨split_eq_singleton ha, split_eq_singleton hb, split_eq_singleton hd⟩

/-- Parts without the separator are found again in what they make up. -/
theorem split_intercalate {c : Char} {parts : List Text} (hne : parts ≠ [])
    (h : ∀ part ∈ parts, c ∉ part) : split c ([c].intercalate parts) = parts := by
  induction parts with
  | nil => exact absurd rfl hne
  | cons part rest ih =>
    have hpart : c ∉ part := h part List.mem_cons_self
    by_cases hrest : rest = []
    · subst hrest
      rw [List.intercalate_singleton, split_of_not_mem hpart]
    · rw [List.intercalate_cons_of_ne_nil hrest, List.append_assoc, List.singleton_append,
        split_append, split_of_not_mem hpart, List.singleton_append,
        ih hrest fun p hp => h p (List.mem_cons_of_mem part hp)]

theorem toNat_of_isUpper {c : Char} (h : c.isUpper = true) : 65 ≤ c.toNat ∧ c.toNat ≤ 90 := by
  delta Char.isUpper at h
  simpa only [Bool.and_eq_true, decide_eq_true_eq, ge_iff_le, UInt32.le_iff_toNat_le,
    Char.toNat_val, Char.reduceToNat] using h

theorem toNat_of_isLower {c : Char} (h : c.isLower = true) : 97 ≤ c.toNat ∧ c.toNat ≤ 122 := by
  delta Char.isLower at h
  simpa only [Bool.and_eq_true, decide_eq_true_eq, ge_iff_le, UInt32.le_iff_toNat_le,
    Char.toNat_val, Char.reduceToNat] using h

theorem toNat_of_isDigit {c : Char} (h : c.isDigit = true) : 48 ≤ c.toNat ∧ c.toNat ≤ 57 := by
  delta Char.isDigit at h
  simpa only [Bool.and_eq_true, decide_eq_true_eq, ge_iff_le, UInt32.le_iff_toNat_le,
    Char.toNat_val, Char.reduceToNat] using h

theorem toNat_of_isAlphanum {c : Char} (h : c.isAlphanum = true) : (48 ≤ c.toNat ∧ c.toNat ≤ 57) ∨
    (65 ≤ c.toNat ∧ c.toNat ≤ 90) ∨ (97 ≤ c.toNat ∧ c.toNat ≤ 122) := by
  delta Char.isAlphanum Char.isAlpha at h
  simp only [Bool.or_eq_true] at h
  rcases h with (hupper | hlower) | hdigit
  · exact .inr (.inl (toNat_of_isUpper hupper))
  · exact .inr (.inr (toNat_of_isLower hlower))
  · exact .inl (toNat_of_isDigit hdigit)

theorem isBlank_of_isAlphanum {c : Char} (h : c.isAlphanum = true) : isBlank c = false := by
  have hc := toNat_of_isAlphanum h
  simp only [isBlank, Bool.or_eq_false_iff, Bool.and_eq_false_iff, decide_eq_false_iff_not,
    beq_eq_false_iff_ne]
  omega

theorem dropWhile_eq_self {stays : Char → Bool} {t : Text} (h : ∀ c ∈ t.head?, stays c = false) :
    t.dropWhile stays = t := by
  cases t with
  | nil => rfl
  | cons c rest => exact List.dropWhile_cons_of_neg (by simp [h c rfl])

theorem trim_eq_self {t : Text} (hfirst : ∀ c ∈ t.head?, isBlank c = false)
    (hlast : ∀ c ∈ t.getLast?, isBlank c = false) : t.trim = t := by
  have hrev : ∀ c ∈ t.reverse.head?, isBlank c = false := by
    rw [List.head?_reverse]
    exact hlast
  rw [trim, trimLeft, dropWhile_eq_self hfirst, trimRight, dropWhile_eq_self hrev,
    List.reverse_reverse]

theorem getLast?_of_suffix {s t : Text} (h : t <:+ s) (ht : t ≠ []) : s.getLast? = t.getLast? := by
  obtain ⟨before, rfl⟩ := h
  rw [List.getLast?_append, List.getLast?_eq_some_getLast ht, Option.some_or]

theorem isBlank_getLast_of_digits {t ds : Text} (h : ds <:+ t) (hne : ds ≠ [])
    (hds : ∀ c ∈ ds, c.isDigit = true) : ∀ c ∈ t.getLast?, isBlank c = false := by
  rw [getLast?_of_suffix h hne]
  intro c hc
  have hdigit := hds c (List.mem_of_getLast? hc)
  exact isBlank_of_isAlphanum (by rw [Char.isAlphanum, hdigit, Bool.or_true])

theorem isBlank_getLast_trim {t : Text} : ∀ c ∈ t.trim.getLast?, isBlank c = false := by
  intro c hc
  rw [trim, trimRight, List.getLast?_reverse] at hc
  have h := List.head?_dropWhile_not isBlank t.trimLeft.reverse
  rw [Option.mem_def.mp hc] at h
  exact h

end MediaPerimeter.Text
