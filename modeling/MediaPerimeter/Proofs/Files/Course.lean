import MediaPerimeter.Proofs.Files.Walk

/-!
# The course of a path

A path is followed step by step, one name after the other and without a bound on links. A walk ends
as this course does if it takes no more links than there are in the budget. Otherwise there are two
ways to end nowhere: a course breaks off at a name that leads on to nothing, or it takes one link too
many. The course of a cycle of links takes as many as one likes.
-/
namespace MediaPerimeter
open MediaPerimeter.Path FileSystem

/-- A place that is reached, and the names that are still to be read from there. -/
structure Course where
  here : Place
  todo : List Text

namespace Course

inductive Step (fs : FileSystem) : Course → Nat → Course → Prop
  | stay {here name rest} (hself : isSelf name = true) (hdir : fs.isDirAt here = true) :
      Step fs ⟨here, name :: rest⟩ 0 ⟨here, rest⟩
  | climb {here name rest} (hself : isSelf name = false) (hparent : isParent name = true)
      (hdir : fs.isDirAt here = true) : Step fs ⟨here, name :: rest⟩ 0 ⟨here.dropLast, rest⟩
  | enter {here name rest node} (hself : isSelf name = false) (hparent : isParent name = false)
      (hnode : fs.at? (here ++ [name]) = some node) (hlink : ∀ target, node ≠ .link target) :
      Step fs ⟨here, name :: rest⟩ 0 ⟨here ++ [name], rest⟩
  | turn {here name rest target} (hself : isSelf name = false) (hparent : isParent name = false)
      (hnode : fs.at? (here ++ [name]) = some (.link target)) :
      Step fs ⟨here, name :: rest⟩ 1 ⟨start here target, names target ++ rest⟩

inductive Leads (fs : FileSystem) : Course → Nat → Course → Prop
  | refl (c : Course) : Leads fs c 0 c
  | step {c c' c'' m n} (first : Step fs c m c') (more : Leads fs c' n c'') :
      Leads fs c (m + n) c''

/-- A name is left, and it leads on to nothing. -/
def IsStuck (fs : FileSystem) (c : Course) : Prop := c.todo ≠ [] ∧ ∀ m c', ¬ Step fs c m c'

/-- Something on the way is missing, or is no directory where there has to be one. -/
def Breaks (fs : FileSystem) (c : Course) : Prop := ∃ n c', Leads fs c n c' ∧ IsStuck fs c'

/-- The course takes as many links as one likes, so it never ends. -/
def Circles (fs : FileSystem) (c : Course) : Prop := ∀ n, ∃ m c', n ≤ m ∧ Leads fs c m c'

variable {fs : FileSystem} {c c' c'' : Course} {m n links : Nat} {p : Place}

theorem Leads.single (h : Step fs c m c') : Leads fs c m c' := .step h (.refl c')

theorem Leads.trans (h : Leads fs c m c') (h' : Leads fs c' n c'') : Leads fs c (m + n) c'' := by
  induction h with
  | refl => rwa [Nat.zero_add]
  | step first _ ih =>
    rw [Nat.add_assoc]
    exact .step first (ih h')

/-- What is left of a path does not matter for the names in front. -/
theorem Step.append (h : Step fs c m c') (rest : List Text) :
    Step fs ⟨c.here, c.todo ++ rest⟩ m ⟨c'.here, c'.todo ++ rest⟩ := by
  cases h with
  | stay hself hdir => exact .stay hself hdir
  | climb hself hparent hdir => exact .climb hself hparent hdir
  | enter hself hparent hnode hlink => exact .enter hself hparent hnode hlink
  | turn hself hparent hnode =>
    dsimp only
    rw [List.append_assoc]
    exact .turn hself hparent hnode

theorem Leads.append (h : Leads fs c n c') (rest : List Text) :
    Leads fs ⟨c.here, c.todo ++ rest⟩ n ⟨c'.here, c'.todo ++ rest⟩ := by
  induction h with
  | refl => exact .refl _
  | step first _ ih => exact .step (first.append rest) ih

/-- A link that has to be followed again in order to be followed is a cycle. -/
theorem circles_of_again {here : Place} {name : Text} {more : List Text}
    (h : Leads fs ⟨here, [name]⟩ (n + 1) ⟨here, name :: more⟩) (rest : List Text) :
    Circles fs ⟨here, name :: rest⟩ := by
  intro k
  induction k generalizing rest with
  | zero => exact ⟨0, _, Nat.le_refl 0, .refl _⟩
  | succ k ih =>
    obtain ⟨m, c', hm, hleads⟩ := ih (more ++ rest)
    exact ⟨n + 1 + m, c', by omega, (h.append rest).trans hleads⟩

theorem Leads.circles (h : Leads fs c n c') (hcircles : Circles fs c') : Circles fs c := by
  intro k
  obtain ⟨m, c'', hm, hleads⟩ := hcircles k
  exact ⟨n + m, c'', Nat.le_add_left_of_le hm, h.trans hleads⟩

theorem Step.walk_add (h : Step fs c m c') (links : Nat) :
    fs.walk (links + m) c.here c.todo = fs.walk links c'.here c'.todo := by
  cases h with
  | stay hself hdir => rw [walk, if_pos hself, if_pos hdir, Nat.add_zero]
  | climb hself hparent hdir =>
    rw [walk, hself, if_neg Bool.false_ne_true, if_pos hparent, if_pos hdir, Nat.add_zero]
  | @enter here name rest node hself hparent hnode hlink =>
    rw [walk, hself, hparent, hnode]
    cases node with
    | link target => exact absurd rfl (hlink target)
    | file | dir | special => rfl
  | turn hself hparent hnode =>
    rw [walk, hself, hparent, hnode]
    rfl

theorem Step.walk_lt (h : Step fs c m c') (hlt : links < m) :
    fs.walk links c.here c.todo = .error .tooManyLinks := by
  cases h with
  | stay | climb | enter => exact absurd hlt (Nat.not_lt_zero links)
  | turn hself hparent hnode =>
    obtain rfl : links = 0 := Nat.lt_one_iff.mp hlt
    rw [walk, hself, hparent, hnode]
    rfl

theorem Leads.walk_add (h : Leads fs c n c') (links : Nat) :
    fs.walk (links + n) c.here c.todo = fs.walk links c'.here c'.todo := by
  induction h with
  | refl => rfl
  | @step c c' c'' m n first _ ih =>
    rw [Nat.add_comm m n, ← Nat.add_assoc, first.walk_add, ih]

theorem Leads.walk_lt (h : Leads fs c n c') (hlt : links < n) :
    fs.walk links c.here c.todo = .error .tooManyLinks := by
  induction h generalizing links with
  | refl => exact absurd hlt (Nat.not_lt_zero links)
  | @step c c' c'' m n first _ ih =>
    rcases Nat.lt_or_ge links m with hfew | hmany
    · exact first.walk_lt hfew
    · obtain ⟨left, rfl⟩ := Nat.exists_eq_add_of_le' hmany
      rw [first.walk_add]
      exact ih (by omega)

theorem IsStuck.walk_eq (h : IsStuck fs c) (links : Nat) :
    ∃ cause, fs.walk links c.here c.todo = .error cause := by
  obtain ⟨here, todo⟩ := c
  cases todo with
  | nil => exact absurd rfl h.1
  | cons name rest =>
    cases hwalk : fs.walk links here (name :: rest) with
    | error cause => exact ⟨cause, rfl⟩
    | ok p =>
      exfalso
      cases hself : isSelf name with
      | true =>
        rw [walk, if_pos hself] at hwalk
        split at hwalk
        · exact h.2 0 _ (.stay hself ‹_›)
        · cases hwalk
      | false =>
        cases hparent : isParent name with
        | true =>
          rw [walk, hself, if_neg Bool.false_ne_true, if_pos hparent] at hwalk
          split at hwalk
          · exact h.2 0 _ (.climb hself hparent ‹_›)
          · cases hwalk
        | false =>
          cases hnode : fs.at? (here ++ [name]) with
          | none =>
            rw [walk, hself, hparent, hnode] at hwalk
            cases hwalk
          | some node =>
            cases node with
            | link target => exact h.2 1 _ (.turn hself hparent hnode)
            | file | dir | special => exact h.2 0 _ (.enter hself hparent hnode (by simp))

inductive Ends (fs : FileSystem) (links : Nat) (c : Course) : Except SystemError Place → Prop
  | arrives {count place} (hcount : count ≤ links) (h : Leads fs c count ⟨place, []⟩) :
      Ends fs links c (.ok place)
  | breaks {cause} (h : Breaks fs c) : Ends fs links c (.error cause)
  | exceeds {count after} (hcount : links < count) (h : Leads fs c count after) :
      Ends fs links c (.error .tooManyLinks)

variable {result : Except SystemError Place}

theorem Ends.step (first : Step fs c m c') (h : Ends fs links c' result) :
    Ends fs (links + m) c result := by
  cases h with
  | arrives hcount h => exact .arrives (by omega) (.step first h)
  | breaks h =>
    obtain ⟨n, c'', hleads, hstuck⟩ := h
    exact .breaks ⟨m + n, c'', .step first hleads, hstuck⟩
  | exceeds hcount h => exact .exceeds (by omega) (.step first h)

theorem IsStuck.ends (h : IsStuck fs c) (cause : SystemError) :
    Ends fs links c (.error cause) := .breaks ⟨0, c, .refl c, h⟩

theorem ends_walk (fs : FileSystem) (links : Nat) (here : Place) (todo : List Text) :
    Ends fs links ⟨here, todo⟩ (fs.walk links here todo) := by
  induction links, here, todo using walk.induct fs with
  | case1 links here =>
    rw [walk]
    exact .arrives (Nat.zero_le links) (.refl _)
  | case2 links here name rest hself hdir ih =>
    rw [walk, if_pos hself, if_pos hdir]
    exact ih.step (.stay hself hdir)
  | case3 links here name rest hself hdir =>
    rw [walk, if_pos hself, if_neg hdir]
    refine IsStuck.ends ⟨List.cons_ne_nil name rest, fun m c' hstep => ?_⟩ _
    cases hstep <;> simp_all
  | case4 links here name rest hself hparent hdir ih =>
    rw [walk, if_neg hself, if_pos hparent, if_pos hdir]
    exact ih.step (.climb (eq_false_of_ne_true hself) hparent hdir)
  | case5 links here name rest hself hparent hdir =>
    rw [walk, if_neg hself, if_pos hparent, if_neg hdir]
    refine IsStuck.ends ⟨List.cons_ne_nil name rest, fun m c' hstep => ?_⟩ _
    cases hstep <;> simp_all
  | case6 links here name rest hself hparent hnode =>
    rw [walk, if_neg hself, if_neg hparent, hnode]
    refine IsStuck.ends ⟨List.cons_ne_nil name rest, fun m c' hstep => ?_⟩ _
    cases hstep <;> simp_all
  | case7 here name rest hself hparent target hnode =>
    rw [walk, if_neg hself, if_neg hparent, hnode]
    have hstep : Step fs ⟨here, name :: rest⟩ 1 ⟨start here target, names target ++ rest⟩ :=
      .turn (eq_false_of_ne_true hself) (eq_false_of_ne_true hparent) hnode
    exact .exceeds Nat.one_pos (.single hstep)
  | case8 here name rest hself hparent target hnode links ih =>
    rw [walk, if_neg hself, if_neg hparent, hnode]
    exact ih.step (.turn (eq_false_of_ne_true hself) (eq_false_of_ne_true hparent) hnode)
  | case9 links here name rest hself hparent node hlink hnode ih =>
    have hstep : Step fs ⟨here, name :: rest⟩ 0 ⟨here ++ [name], rest⟩ :=
      .enter (eq_false_of_ne_true hself) (eq_false_of_ne_true hparent) hnode hlink
    rw [← Nat.add_zero links, hstep.walk_add]
    exact ih.step hstep

theorem walk_eq_ok_iff :
    fs.walk links c.here c.todo = .ok p ↔ ∃ n ≤ links, Leads fs c n ⟨p, []⟩ := by
  constructor
  · intro h
    have hends := ends_walk fs links c.here c.todo
    rw [h] at hends
    obtain ⟨hn, hleads⟩ | _ | _ := hends
    exact ⟨_, hn, hleads⟩
  · rintro ⟨n, hn, h⟩
    obtain ⟨left, rfl⟩ := Nat.exists_eq_add_of_le' hn
    rw [h.walk_add, walk]

/-- An absolute path is followed from the root. -/
theorem canonical_eq_ok_iff {path : Text} (habsolute : isAbsolute path = true) :
    fs.canonical path = .ok p ↔ ∃ n ≤ maxLinks, Leads fs ⟨[], names path⟩ n ⟨p, []⟩ := by
  have hne : path ≠ [] := by
    rintro rfl
    cases habsolute
  rw [canonical, if_neg hne, start, if_pos habsolute]
  exact walk_eq_ok_iff (c := ⟨[], names path⟩)

theorem walk_eq_error_iff : (∃ cause, fs.walk links c.here c.todo = .error cause) ↔
    Breaks fs c ∨ ∃ n after, links < n ∧ Leads fs c n after := by
  constructor
  · rintro ⟨cause, h⟩
    have hends := ends_walk fs links c.here c.todo
    rw [h] at hends
    cases hends with
    | breaks hbreaks => exact .inl hbreaks
    | exceeds hn hleads => exact .inr ⟨_, _, hn, hleads⟩
  · rintro (⟨n, c', hleads, hstuck⟩ | ⟨n, after, hn, hleads⟩)
    · rcases Nat.lt_or_ge links n with hfew | hmany
      · exact ⟨_, hleads.walk_lt hfew⟩
      · obtain ⟨left, rfl⟩ := Nat.exists_eq_add_of_le' hmany
        obtain ⟨cause, hcause⟩ := hstuck.walk_eq left
        exact ⟨cause, (hleads.walk_add left).trans hcause⟩
    · exact ⟨_, hleads.walk_lt hn⟩

end Course
end MediaPerimeter
