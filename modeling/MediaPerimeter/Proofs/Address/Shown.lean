import MediaPerimeter.Address.Reach
import MediaPerimeter.Proofs.Address.Canonical
import MediaPerimeter.Proofs.Address.Characters

/-!
# Addresses in texts

A text shows an address if it is a literal of it, but for blanks around it and one pair of brackets
inside of these. The class of a text is that of the address it shows, and an address is shown by its
own text, so checking an address and classifying its text come to the same.
-/
namespace MediaPerimeter

namespace Text

/-- Blanks around a text, and perhaps a pair of brackets inside of the blanks. -/
inductive Framed (core : Text) : Text → Prop
  | blanks {before after : Text} (hbefore : ∀ c ∈ before, isBlank c = true)
      (hafter : ∀ c ∈ after, isBlank c = true) : Framed core (before ++ (core ++ after))
  | brackets {before after : Text} (hbefore : ∀ c ∈ before, isBlank c = true)
      (hafter : ∀ c ∈ after, isBlank c = true) :
      Framed core (before ++ (('[' :: core ++ [']']) ++ after))

variable {t before after : Text}

theorem trim_blanks (hbefore : ∀ c ∈ before, isBlank c = true)
    (hafter : ∀ c ∈ after, isBlank c = true) (hfirst : ∀ c ∈ t.head?, isBlank c = false)
    (hlast : ∀ c ∈ t.getLast?, isBlank c = false) : (before ++ (t ++ after)).trim = t := by
  have hleft : (before ++ (t ++ after)).trimLeft = t ++ after ∨
      t = [] ∧ (before ++ (t ++ after)).trimLeft = [] := by
    rw [trimLeft, List.dropWhile_append_of_pos hbefore]
    cases t with
    | nil => exact .inr ⟨rfl, List.dropWhile_eq_nil_iff.mpr hafter⟩
    | cons c t => exact .inl (dropWhile_eq_self hfirst)
  rcases hleft with hleft | ⟨rfl, hleft⟩
  · have hrev : ∀ c ∈ t.reverse.head?, isBlank c = false := by rwa [List.head?_reverse]
    have hback : ∀ c ∈ after.reverse, isBlank c = true := fun c hc =>
      hafter c (List.mem_reverse.mp hc)
    rw [trim, hleft, trimRight, List.reverse_append, List.dropWhile_append_of_pos hback,
      dropWhile_eq_self hrev, List.reverse_reverse]
  · rw [trim, hleft]
    rfl

theorem exists_trim (t : Text) : ∃ before after, t = before ++ (t.trim ++ after) ∧
    (∀ c ∈ before, isBlank c = true) ∧ ∀ c ∈ after, isBlank c = true := by
  refine ⟨t.takeWhile isBlank, (t.trimLeft.reverse.takeWhile isBlank).reverse, ?_, ?_, ?_⟩
  · have hback : t.trim ++ (t.trimLeft.reverse.takeWhile isBlank).reverse = t.trimLeft := by
      rw [trim, trimRight, ← List.reverse_append, List.takeWhile_append_dropWhile,
        List.reverse_reverse]
    rw [hback]
    exact List.takeWhile_append_dropWhile.symm
  · exact fun c hc => List.mem_takeWhile_imp hc
  · exact fun c hc => List.mem_takeWhile_imp (List.mem_reverse.mp hc)

theorem unbracket_brackets (t : Text) : unbracket ('[' :: t ++ [']']) = t := by
  simp [unbracket]

theorem unbracket_eq_self (h : t.head? ≠ some '[') : t.unbracket = t := by
  unfold unbracket
  split
  · exact absurd rfl h
  · rfl

theorem eq_or_brackets (t : Text) : t = t.unbracket ∨ t = '[' :: t.unbracket ++ [']'] := by
  unfold unbracket
  split
  · rename_i rest
    split
    · rename_i hlast
      obtain ⟨inside, rfl⟩ := List.getLast?_eq_some_iff.mp hlast
      rw [List.dropLast_concat]
      exact .inr rfl
    · exact .inl rfl
  · exact .inl rfl

theorem framed_unbracket (t : Text) : Framed t.trim.unbracket t := by
  obtain ⟨before, after, ht, hbefore, hafter⟩ := exists_trim t
  rcases eq_or_brackets t.trim with hcore | hcore
  · rw [hcore] at ht
    conv => rhs; rw [ht]
    exact .blanks hbefore hafter
  · rw [hcore] at ht
    conv => rhs; rw [ht]
    exact .brackets hbefore hafter

end Text

namespace Address

def Shows (t : Text) (a : Address) : Prop := ∃ core : Text, core.Framed t ∧ IsLiteral core a

theorem unbracket_trim_of_framed {t core : Text} {a : Address} (h : core.Framed t)
    (hcore : IsLiteral core a) : t.trim.unbracket = core := by
  have hchars : ∀ c ∈ core, inText c = true := inText_of_ofText? (ofText?_eq_some_iff.mpr hcore)
  cases h with
  | blanks hbefore hafter =>
    have hbracket : core.head? ≠ some '[' := fun hhead =>
      absurd (hchars '[' (List.mem_of_mem_head? hhead)) (by decide)
    rw [Text.trim_blanks hbefore hafter
      (fun c hc => isBlank_of_inText (hchars c (List.mem_of_mem_head? hc)))
      fun c hc => isBlank_of_inText (hchars c (List.mem_of_getLast? hc))]
    exact Text.unbracket_eq_self hbracket
  | brackets hbefore hafter =>
    have hfirst : ∀ c ∈ ('[' :: core ++ [']']).head?, isBlank c = false := by
      rintro c ⟨⟩
      decide
    have hlast : ∀ c ∈ ('[' :: core ++ [']']).getLast?, isBlank c = false := by
      rw [List.getLast?_append]
      rintro c ⟨⟩
      decide
    rw [Text.trim_blanks hbefore hafter hfirst hlast]
    exact Text.unbracket_brackets core

/-- What a text shows is what it denotes without its frame. -/
theorem shows_iff {t : Text} {a : Address} : Shows t a ↔ ofText? t.trim.unbracket = some a := by
  rw [ofText?_eq_some_iff]
  constructor
  · rintro ⟨core, hframed, hcore⟩
    rwa [unbracket_trim_of_framed hframed hcore]
  · intro h
    exact ⟨_, Text.framed_unbracket t, h⟩

theorem Shows.ofText {t : Text} {a : Address} (h : Shows t a) : Reach.ofText t = a.reach := by
  rw [Reach.ofText, shows_iff.mp h]

theorem reach_ne_unparseable (a : Address) : a.reach ≠ .unparseable := by
  have hv4 (ip : IPv4) : ip.reach ≠ .unparseable := by
    unfold IPv4.reach
    split_ifs <;> nofun
  have hv6 (ip : IPv6) : ip.ownReach ≠ .unparseable := by
    unfold IPv6.ownReach
    split_ifs <;> nofun
  unfold reach
  split
  · exact hv4 _
  · split
    · exact hv4 _
    · exact hv6 _

theorem ofText_eq_unparseable_iff {t : Text} :
    Reach.ofText t = .unparseable ↔ ∀ a, ¬ Shows t a := by
  constructor
  · intro h a ha
    exact reach_ne_unparseable a (ha.ofText.symm.trans h)
  · intro h
    have hnone : ofText? t.trim.unbracket = none :=
      Option.eq_none_iff_forall_ne_some.mpr fun a ha => h a (shows_iff.mpr ha)
    rw [Reach.ofText, hnone]

/-- The class that an address is refused for is that of the text in the refusal, and an address that
passes has a text of the public class. Frames around the text change nothing. -/
theorem check_ofText (a : Address) :
    (∀ u, a.check = .error u → u.reach = a.reach ∧ u.address = a.text ∧
      ∀ t, u.address.Framed t → Reach.ofText t = u.reach) ∧
    (a.check = .ok () → ∀ t, a.text.Framed t → Reach.ofText t = .publicNet) := by
  have hshows {t : Text} (h : a.text.Framed t) : Reach.ofText t = a.reach :=
    Shows.ofText ⟨a.text, h, isLiteral_text a⟩
  constructor
  · intro u hcheck
    unfold check at hcheck
    split at hcheck
    · cases hcheck
    · cases hcheck
      exact ⟨rfl, rfl, fun t ht => hshows ht⟩
  · intro hcheck t ht
    rw [hshows ht]
    exact beq_iff_eq.mp (check_eq_ok_iff.mp hcheck)

/-- An address that carries a private one is refused, a public address passes, and their texts in
frames have the same classes. -/
theorem check_ofText_of_mapped :
    (check (.v6 ⟨0, 0, 0, 0, 0, 0xffff, 0x0a00, 1⟩) =
        .error ⟨.privateNet, "::ffff:10.0.0.1".toList⟩ ∧
      Reach.ofText "\t[::ffff:10.0.0.1] ".toList = .privateNet) ∧
    check (.v4 ⟨8, 8, 8, 8⟩) = .ok () ∧ Reach.ofText "8.8.8.8\n".toList = .publicNet := by
  have hrefused : check (.v6 ⟨0, 0, 0, 0, 0, 0xffff, 0x0a00, 1⟩) =
      .error ⟨.privateNet, "::ffff:10.0.0.1".toList⟩ := by decide +kernel
  have hpassed : check (.v4 ⟨8, 8, 8, 8⟩) = .ok () := by decide +kernel
  have hbrackets : Text.Framed "::ffff:10.0.0.1".toList
      (['\t'] ++ (('[' :: "::ffff:10.0.0.1".toList ++ [']']) ++ [' '])) :=
    .brackets (List.all_eq_true.mp rfl) (List.all_eq_true.mp rfl)
  have hblank : Text.Framed (text (.v4 ⟨8, 8, 8, 8⟩)) ([] ++ ("8.8.8.8".toList ++ ['\n'])) :=
    .blanks (List.forall_mem_nil _) (List.all_eq_true.mp rfl)
  refine ⟨⟨hrefused, ?_⟩, hpassed, ?_⟩
  · exact ((check_ofText _).1 _ hrefused).2.2 _ hbrackets
  · exact (check_ofText _).2 hpassed _ hblank

end Address
end MediaPerimeter
