import MediaPerimeter.Files.Containment
import MediaPerimeter.Proofs.Text.Cut

/-!
# Where paths lead

What a path leads to is a place with proper names only: no link, dot or slash is left in it. A node
that is no link is led to by the path of its own place, and by the way down to it from any directory
above.
-/
namespace MediaPerimeter
open MediaPerimeter.Path

def Path.IsProper (name : Text) : Prop :=
  isSelf name = false ∧ isParent name = false ∧ '/' ∉ name

def Place.IsProper (p : Place) : Prop := ∀ name ∈ p, Path.IsProper name

instance (name : Text) : Decidable (Path.IsProper name) :=
  inferInstanceAs (Decidable (isSelf name = false ∧ isParent name = false ∧ '/' ∉ name))

instance (p : Place) : Decidable p.IsProper :=
  inferInstanceAs (Decidable (∀ name ∈ p, Path.IsProper name))

theorem Place.isProper_append {p q : Place} :
    Place.IsProper (p ++ q) ↔ p.IsProper ∧ q.IsProper := List.forall_mem_append

theorem Place.isProper_cons {name : Text} {p : Place} :
    Place.IsProper (name :: p) ↔ Path.IsProper name ∧ p.IsProper := List.forall_mem_cons

theorem Place.IsProper.dropLast {p : Place} (h : p.IsProper) : Place.IsProper p.dropLast :=
  fun name hname => h name (List.dropLast_subset p hname)

theorem Path.IsProper.ne_nil {name : Text} (h : Path.IsProper name) : name ≠ [] := by
  rintro rfl
  exact absurd h.1 (by decide)

/-- A path of proper names does not begin with a slash. -/
theorem Path.not_isAbsolute {path : Text} (h : Place.IsProper (names path)) :
    isAbsolute path = false := by
  rw [isAbsolute, beq_eq_false_iff_ne]
  intro hhead
  obtain ⟨rest, rfl⟩ := List.head?_eq_some_iff.mp hhead
  rw [names, Text.split_cons_self] at h
  exact (h [] List.mem_cons_self).ne_nil rfl

theorem Place.split_flatMap {first : Text} {rest : Place} (hfirst : '/' ∉ first)
    (hrest : ∀ name ∈ rest, '/' ∉ name) :
    Text.split '/' (first ++ rest.flatMap fun name => '/' :: name) = first :: rest := by
  induction rest generalizing first with
  | nil => rw [List.flatMap_nil, List.append_nil, Text.split_of_not_mem hfirst]
  | cons name rest ih =>
    obtain ⟨hname, hrest⟩ := List.forall_mem_cons.mp hrest
    rw [List.flatMap_cons, List.cons_append, Text.split_append, Text.split_of_not_mem hfirst,
      ih hname hrest, List.singleton_append]

theorem Place.names_text {p : Place} (hne : p ≠ []) (h : p.IsProper) : names p.text = [] :: p := by
  cases p with
  | nil => exact absurd rfl hne
  | cons name rest =>
    obtain ⟨hname, hrest⟩ := Place.isProper_cons.mp h
    rw [names, Place.text, List.flatMap_cons, List.cons_append, Text.split_cons_self,
      Place.split_flatMap hname.2.2 fun x hx => (hrest x hx).2.2]
    nofun

theorem Place.isAbsolute_text (p : Place) : isAbsolute p.text = true := by
  cases p with
  | nil => rfl
  | cons name rest => rfl

namespace FileSystem

variable {fs : FileSystem} {here p q : Place} {node : Node}

theorem at?_append (fs : FileSystem) (p q : Place) :
    fs.at? (p ++ q) = (fs.at? p).bind fun inner => inner.at? q := Node.at?_append fs.root p q

theorem isDirAt_nil (fs : FileSystem) : fs.isDirAt [] = true := rfl

/-- On the way to a node that is no link there is none. -/
theorem exists_at?_of_append (hlink : ∀ target, node ≠ .link target)
    (h : fs.at? (p ++ q) = some node) :
    ∃ inner, fs.at? p = some inner ∧ ∀ target, inner ≠ .link target := by
  rw [at?_append] at h
  obtain ⟨inner, hinner, h⟩ := Option.bind_eq_some_iff.mp h
  refine ⟨inner, hinner, ?_⟩
  rintro target rfl
  cases q with
  | nil =>
    cases h
    exact hlink target rfl
  | cons => cases h

/-- The place at the end of a walk has proper names if the place at its start has. -/
theorem isProper_of_walk {links : Nat} {todo : List Text} (h : fs.walk links here todo = .ok p)
    (hhere : here.IsProper) (htodo : ∀ name ∈ todo, '/' ∉ name) : p.IsProper := by
  induction links, here, todo using walk.induct fs with
  | case1 links here =>
    rw [walk] at h
    cases h
    exact hhere
  | case2 links here name rest hself hdir ih =>
    rw [walk, if_pos hself, if_pos hdir] at h
    exact ih h hhere (List.forall_mem_cons.mp htodo).2
  | case3 links here name rest hself hdir =>
    rw [walk, if_pos hself, if_neg hdir] at h
    cases h
  | case4 links here name rest hself hparent hdir ih =>
    rw [walk, if_neg hself, if_pos hparent, if_pos hdir] at h
    exact ih h hhere.dropLast (List.forall_mem_cons.mp htodo).2
  | case5 links here name rest hself hparent hdir =>
    rw [walk, if_neg hself, if_pos hparent, if_neg hdir] at h
    cases h
  | case6 links here name rest hself hparent hnode =>
    rw [walk, if_neg hself, if_neg hparent, hnode] at h
    cases h
  | case7 here name rest hself hparent target hnode =>
    rw [walk, if_neg hself, if_neg hparent, hnode] at h
    cases h
  | case8 here name rest hself hparent target hnode links ih =>
    rw [walk, if_neg hself, if_neg hparent, hnode] at h
    refine ih h ?_ ?_
    · unfold start
      split
      · exact List.forall_mem_nil _
      · exact hhere
    · intro x hx
      rcases List.mem_append.mp hx with hx | hx
      · exact Text.not_mem_of_mem_split hx
      · exact htodo x (List.mem_cons_of_mem name hx)
  | case9 links here name rest hself hparent node hlink hnode ih =>
    rw [walk, if_neg hself, if_neg hparent, hnode] at h
    obtain ⟨hname, hrest⟩ := List.forall_mem_cons.mp htodo
    refine ih ?_ ?_ hrest
    · cases node with
      | file | dir | special => exact h
      | link target => exact absurd rfl (hlink target)
    · exact Place.isProper_append.mpr
        ⟨hhere, Place.isProper_cons.mpr
          ⟨⟨eq_false_of_ne_true hself, eq_false_of_ne_true hparent, hname⟩,
            List.forall_mem_nil _⟩⟩

/-- A walk along proper names ends where they lead, unless links are in the way. -/
theorem walk_of_isProper (hp : p.IsProper) (hlink : ∀ target, node ≠ .link target)
    (h : fs.at? (here ++ p) = some node) (links : Nat) :
    fs.walk links here p = .ok (here ++ p) := by
  induction p generalizing here with
  | nil => rw [walk, List.append_nil]
  | cons name rest ih =>
    obtain ⟨⟨hself, hparent, -⟩, hrest⟩ := Place.isProper_cons.mp hp
    rw [List.append_cons] at h ⊢
    obtain ⟨inner, hinner, hstep⟩ := exists_at?_of_append hlink h
    rw [walk, if_neg (Bool.not_eq_true _ ▸ hself), if_neg (Bool.not_eq_true _ ▸ hparent), hinner]
    cases inner with
    | link target => exact absurd rfl (hstep target)
    | file | dir | special => exact ih hrest h

theorem isProper_of_canonical {path : Text} (h : fs.canonical path = .ok p)
    (hcwd : fs.cwd.IsProper) : p.IsProper := by
  unfold canonical at h
  split at h
  · cases h
  · refine isProper_of_walk h ?_ fun name hname => Text.not_mem_of_mem_split hname
    unfold start
    split
    · exact List.forall_mem_nil _
    · exact hcwd

/-- The path of a place leads there. -/
theorem canonical_text (hp : p.IsProper) (hlink : ∀ target, node ≠ .link target)
    (h : fs.at? p = some node) : fs.canonical p.text = .ok p := by
  have hne : p.text ≠ [] := by
    intro he
    have habs := p.isAbsolute_text
    rw [he] at habs
    cases habs
  rw [canonical, if_neg hne, start, if_pos p.isAbsolute_text]
  cases p with
  | nil =>
    have hnames : names (Place.text []) = [[], []] := by decide
    have hself : isSelf [] = true := rfl
    rw [hnames, walk, if_pos hself, if_pos (isDirAt_nil fs), walk, if_pos hself,
      if_pos (isDirAt_nil fs), walk]
  | cons name rest =>
    have hself : isSelf [] = true := rfl
    rw [Place.names_text (List.cons_ne_nil name rest) hp, walk, if_pos hself,
      if_pos (isDirAt_nil fs)]
    exact walk_of_isProper hp hlink h _

end FileSystem
end MediaPerimeter
