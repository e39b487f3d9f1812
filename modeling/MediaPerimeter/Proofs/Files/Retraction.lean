import MediaPerimeter.Proofs.Files.Course
import MediaPerimeter.Proofs.Files.Served

/-!
# Resolving is a retraction

What a segment is resolved to is a place without dots and links, at the base or below it, and the
place is resolved to itself, both by the way down from the base and by its own path. Every place
below the base is reached in this way. A link has no place of its own: the segment that spells it is
resolved to what its target leads to.
-/
namespace MediaPerimeter
open MediaPerimeter.Path

def Node.WellNamed (node : Node) : Prop := ∀ p, (node.at? p).isSome = true → p.IsProper

theorem Node.wellNamed_of_not_isDir {node : Node} (h : node.isDir = false) : node.WellNamed := by
  intro p hp
  cases p with
  | nil => exact List.forall_mem_nil _
  | cons name rest =>
    cases node with
    | dir => cases h
    | file | link | special => cases hp

theorem Node.wellNamed_dir {entries : List (Text × Node)} {closed : Option SystemError}
    (h : ∀ e ∈ entries, Path.IsProper e.1 ∧ e.2.WellNamed) :
    (Node.dir entries closed).WellNamed := by
  intro p hp
  cases p with
  | nil => exact List.forall_mem_nil _
  | cons name rest =>
    obtain ⟨node, hnode⟩ := Option.isSome_iff_exists.mp hp
    obtain ⟨child, hchild, hbelow⟩ := Option.bind_eq_some_iff.mp hnode
    obtain ⟨before, after, rfl, -⟩ := List.lookup_eq_some_iff.mp hchild
    obtain ⟨hname, hnamed⟩ := h (name, child) List.mem_append_cons_self
    exact Place.isProper_cons.mpr ⟨hname, hnamed rest (Option.isSome_iff_exists.mpr ⟨node, hbelow⟩)⟩

namespace FileSystem

variable {fs : FileSystem} {p q : Place}

/-- There is something at a place, and it is no link. -/
def Stands (fs : FileSystem) (p : Place) : Prop :=
  ∃ node, fs.at? p = some node ∧ ∀ target, node ≠ .link target

/-- A place that is what a path leads to: it has proper names, and there is no link on the way. -/
structure IsCanonical (fs : FileSystem) (p : Place) : Prop where
  proper : p.IsProper
  clear : ∀ q, q <+: p → fs.Stands q

structure WellNamed (fs : FileSystem) : Prop where
  cwd : fs.cwd.IsProper
  nodes : fs.root.WellNamed

theorem stands_nil (fs : FileSystem) : fs.Stands [] := ⟨fs.root, rfl, nofun⟩

theorem stands_of_isDirAt (h : fs.isDirAt p = true) : fs.Stands p := by
  obtain ⟨node, hnode, hdir⟩ := Option.any_eq_true _ _ |>.mp h
  refine ⟨node, hnode, ?_⟩
  rintro target rfl
  cases hdir

theorem Stands.of_append (h : fs.Stands (p ++ q)) : fs.Stands p := by
  obtain ⟨node, hnode, hlink⟩ := h
  exact exists_at?_of_append hlink hnode

theorem Stands.dropLast (h : fs.Stands p) : fs.Stands p.dropLast := by
  rcases List.eq_nil_or_concat p with rfl | ⟨above, name, rfl⟩
  · exact fs.stands_nil
  · rw [List.concat_eq_append] at h ⊢
    rw [List.dropLast_concat]
    exact h.of_append

/-- What has something below it is no link. -/
theorem stands_of_child {name : Text} {node : Node} (h : fs.at? (p ++ [name]) = some node) :
    fs.Stands p := by
  rw [at?_append] at h
  obtain ⟨inner, hinner, h⟩ := Option.bind_eq_some_iff.mp h
  refine ⟨inner, hinner, ?_⟩
  rintro target rfl
  cases h

theorem Stands.isCanonical (h : fs.Stands p) (hproper : p.IsProper) : fs.IsCanonical p where
  proper := hproper
  clear q hq := by
    obtain ⟨more, rfl⟩ := hq
    exact h.of_append

theorem IsCanonical.canonical_eq (h : fs.IsCanonical p) : fs.canonical p.text = .ok p := by
  obtain ⟨node, hnode, hlink⟩ := h.clear p (List.prefix_refl p)
  exact canonical_text h.proper hlink hnode

end FileSystem

open FileSystem (Stands IsCanonical WellNamed)

namespace Course

variable {fs : FileSystem} {c c' : Course} {n : Nat} {p : Place}

theorem Step.stands (h : Step fs c n c') : fs.Stands c'.here := by
  cases h with
  | stay _ hdir => exact FileSystem.stands_of_isDirAt hdir
  | climb _ _ hdir => exact (FileSystem.stands_of_isDirAt hdir).dropLast
  | enter _ _ hnode hlink => exact ⟨_, hnode, hlink⟩
  | turn _ _ hnode =>
    dsimp only
    unfold FileSystem.start
    split
    · exact fs.stands_nil
    · exact FileSystem.stands_of_child hnode

theorem Leads.stands (h : Leads fs c n c') (hc : fs.Stands c.here) : fs.Stands c'.here := by
  induction h with
  | refl => exact hc
  | step first _ ih => exact ih first.stands

/-- Proper names are entered one by one as long as there is no link. -/
theorem leads_of_stands (here : Place) (hp : p.IsProper) (h : fs.Stands (here ++ p))
    (rest : List Text) : Leads fs ⟨here, p ++ rest⟩ 0 ⟨here ++ p, rest⟩ := by
  induction p generalizing here with
  | nil =>
    rw [List.append_nil]
    exact .refl _
  | cons name more ih =>
    obtain ⟨⟨hself, hparent, -⟩, hmore⟩ := Place.isProper_cons.mp hp
    rw [List.append_cons] at h ⊢
    obtain ⟨node, hnode, hlink⟩ := h.of_append
    exact .step (.enter hself hparent hnode hlink) (ih _ hmore h)

end Course

namespace Place

/-- The path of the place below a directory to which these names lead down. -/
def relativeText (way : Place) : Text := ['/'].intercalate way

end Place

namespace Containment

variable {fs : FileSystem} {base segment : Text} {home place : Place}

theorem joined_text (home : Place) {p : Place} (hp : p.IsProper) : joined home p.text = p := by
  rw [joined, FileSystem.start, if_pos p.isAbsolute_text]
  cases p with
  | nil => rfl
  | cons name rest =>
    have hself : isSelf [] = true := rfl
    rw [Place.names_text (List.cons_ne_nil name rest) hp, undotted, if_pos hself,
      undotted_of_isProper hp, List.nil_append]

theorem joined_relativeText (home : Place) {way : Place} (hway : way.IsProper) :
    joined home way.relativeText = home ++ way := by
  cases way with
  | nil =>
    have hself : isSelf [] = true := rfl
    have hnames : names (Place.relativeText []) = [[]] := rfl
    have hstart : FileSystem.start home (Place.relativeText []) = home := rfl
    rw [joined, hstart, hnames, undotted, if_pos hself, undotted, List.append_nil]
  | cons name rest =>
    have hnames : names (Place.relativeText (name :: rest)) = name :: rest :=
      Text.split_intercalate (List.cons_ne_nil name rest) fun part hpart => (hway part hpart).2.2
    have hrelative : isAbsolute (Place.relativeText (name :: rest)) = false := by
      refine not_isAbsolute ?_
      rwa [hnames]
    rw [joined, FileSystem.start, hrelative, if_neg Bool.false_ne_true, hnames,
      undotted_of_isProper hway]

def course (home : Place) (segment : Text) : Course := ⟨[], joined home segment⟩

variable (hbase : fs.canonical base = .ok home)
include hbase

theorem resolve_eq_ok_iff_leads : resolve fs base segment = .ok place ↔
    (∃ n ≤ maxLinks, Course.Leads fs (course home segment) n ⟨place, []⟩) ∧ home <+: place := by
  rw [resolve_eq_ok_iff, ← Course.walk_eq_ok_iff]
  constructor
  · rintro ⟨home', hbase', hwalk, hbelow⟩
    obtain rfl := Except.ok.inj (hbase.symm.trans hbase')
    exact ⟨hwalk, hbelow⟩
  · rintro ⟨hwalk, hbelow⟩
    exact ⟨home, hbase, hwalk, hbelow⟩

theorem exists_resolve_eq_unresolvable_iff :
    (∃ cause, resolve fs base segment = .error (.unresolvable cause)) ↔
      Course.Breaks fs (course home segment) ∨
        ∃ n after, maxLinks < n ∧ Course.Leads fs (course home segment) n after := by
  have hwalk : ∀ cause, resolve fs base segment = .error (.unresolvable cause) ↔
      fs.walk maxLinks [] (joined home segment) = .error cause := by
    intro cause
    unfold resolve
    rw [hbase]
    dsimp only
    cases fs.walk maxLinks [] (joined home segment) with
    | error cause => simp
    | ok place => by_cases hbelow : home <+: place <;> simp [hbelow]
  simp only [hwalk]
  exact Course.walk_eq_error_iff (c := course home segment)

theorem resolve_eq_escapes_iff : resolve fs base segment = .error .escapes ↔
    ∃ n place, n ≤ maxLinks ∧ Course.Leads fs (course home segment) n ⟨place, []⟩ ∧
      ¬ home <+: place := by
  have hwalk : resolve fs base segment = .error .escapes ↔
      ∃ place, fs.walk maxLinks [] (joined home segment) = .ok place ∧ ¬ home <+: place := by
    unfold resolve
    rw [hbase]
    dsimp only
    cases fs.walk maxLinks [] (joined home segment) with
    | error cause => simp
    | ok place => by_cases hbelow : home <+: place <;> simp [hbelow]
  rw [hwalk, exists_comm]
  refine exists_congr fun place => ?_
  have hok : fs.walk maxLinks [] (joined home segment) = .ok place ↔
      ∃ n ≤ maxLinks, Course.Leads fs (course home segment) n ⟨place, []⟩ :=
    Course.walk_eq_ok_iff (c := course home segment)
  rw [hok]
  simp only [← and_assoc, exists_and_right]

theorem resolve_of_isCanonical (hcanonical : fs.IsCanonical place) (hbelow : home <+: place)
    (hjoined : joined home segment = place) : resolve fs base segment = .ok place := by
  obtain ⟨node, hnode, hlink⟩ := hcanonical.clear place (List.prefix_refl place)
  exact resolve_of_joined hbase hcanonical.proper hlink hnode hjoined hbelow

omit hbase in
theorem isCanonical_of_resolve (h : resolve fs base segment = .ok place)
    (hcwd : fs.cwd.IsProper) : fs.IsCanonical place := by
  obtain ⟨home, hbase, hwalk, -⟩ := resolve_eq_ok_iff.mp h
  have hjoined := isProper_joined hbase hcwd segment
  have hproper := FileSystem.isProper_of_walk hwalk (List.forall_mem_nil _) fun name hname =>
    (hjoined name hname).2.2
  obtain ⟨n, -, hleads⟩ := (Course.walk_eq_ok_iff (c := ⟨[], joined home segment⟩)).mp hwalk
  exact (hleads.stands fs.stands_nil).isCanonical hproper

/-- The segment that spells a link is resolved to what the target of the link leads to. -/
theorem resolve_link_iff {way : Place} {name target : Text}
    (hproper : Place.IsProper (home ++ way ++ [name]))
    (hlink : fs.at? (home ++ way ++ [name]) = some (.link target)) :
    resolve fs base (Place.relativeText (way ++ [name])) = .ok place ↔
      (∃ n < maxLinks,
        Course.Leads fs ⟨FileSystem.start (home ++ way) target, names target⟩ n ⟨place, []⟩) ∧
      home <+: place := by
  obtain ⟨hdir, hname⟩ := Place.isProper_append.mp hproper
  obtain ⟨hself, hparent, -⟩ := hname name (List.mem_singleton_self name)
  have hway : Place.IsProper (way ++ [name]) := by
    rw [List.append_assoc] at hproper
    exact (Place.isProper_append.mp hproper).2
  have hdown : Course.Leads fs ⟨[], home ++ way ++ [name]⟩ 0 ⟨home ++ way, [name]⟩ :=
    Course.leads_of_stands [] hdir (FileSystem.stands_of_child hlink) [name]
  have hturn := hdown.trans (.single (.turn hself hparent hlink))
  rw [List.append_nil, Nat.zero_add] at hturn
  have hcourse : course home (Place.relativeText (way ++ [name])) =
      ⟨[], home ++ way ++ [name]⟩ := by
    rw [course, joined_relativeText home hway, List.append_assoc]
  -- One link of the budget is taken by the link itself.
  have hwalk : fs.walk maxLinks [] (home ++ way ++ [name]) =
      fs.walk (maxLinks - 1) (FileSystem.start (home ++ way) target) (names target) :=
    hturn.walk_add (maxLinks - 1)
  rw [resolve_eq_ok_iff_leads hbase, hcourse, ← Course.walk_eq_ok_iff, hwalk,
    Course.walk_eq_ok_iff (c := ⟨_, _⟩)]
  simp only [Nat.le_sub_one_iff_lt (by decide : 0 < maxLinks)]

omit hbase

/-- What is promised of the place that a segment is resolved to: it is what its own path leads to,
it lies at the base or below it, and it is found again from there and by its own path. -/
structure Settles (fs : FileSystem) (base : Text) (home place : Place) : Prop where
  canonical : fs.IsCanonical place
  absolute : isAbsolute place.text = true
  fixed : fs.canonical place.text = .ok place
  below : home <+: place
  relative : ∀ way, place = home ++ way → resolve fs base way.relativeText = .ok place
  alone : resolve fs base place.text = .ok place

theorem settles_of_isCanonical (hbase : fs.canonical base = .ok home)
    (hcanonical : fs.IsCanonical place) (hbelow : home <+: place) :
    Settles fs base home place where
  canonical := hcanonical
  absolute := place.isAbsolute_text
  fixed := hcanonical.canonical_eq
  below := hbelow
  relative way hway := by
    have hproper : way.IsProper := by
      have hplace := hcanonical.proper
      rw [hway] at hplace
      exact (Place.isProper_append.mp hplace).2
    exact resolve_of_isCanonical hbase hcanonical hbelow
      ((joined_relativeText home hproper).trans hway.symm)
  alone := resolve_of_isCanonical hbase hcanonical hbelow (joined_text home hcanonical.proper)

/-- Resolving is a retraction to the places at the base and below it: it ends there only, and all of
them are found by their own path, a link by what its target leads to. A segment whose course breaks
off or goes round in circles cannot be resolved, nor can one that takes too many links, and one that
leads elsewhere escapes. -/
theorem resolve_retracts (hnamed : fs.WellNamed) (hbase : fs.canonical base = .ok home) :
    (∀ segment place, resolve fs base segment = .ok place → Settles fs base home place) ∧
    (∀ way node, fs.at? (home ++ way) = some node → (∀ target, node ≠ .link target) →
      resolve fs base (Place.relativeText way) = .ok (home ++ way)) ∧
    (∀ way name target place, fs.at? (home ++ way ++ [name]) = some (.link target) →
      (resolve fs base (Place.relativeText (way ++ [name])) = .ok place ↔
        (∃ n < maxLinks,
          Course.Leads fs ⟨FileSystem.start (home ++ way) target, names target⟩ n ⟨place, []⟩) ∧
        home <+: place)) ∧
    (∀ segment, (∃ cause, resolve fs base segment = .error (.unresolvable cause)) ↔
      Course.Breaks fs (course home segment) ∨ Course.Circles fs (course home segment) ∨
        ∃ n after, maxLinks < n ∧ Course.Leads fs (course home segment) n after) ∧
    (∀ segment, resolve fs base segment = .error .escapes ↔
      ∃ n place, n ≤ maxLinks ∧ Course.Leads fs (course home segment) n ⟨place, []⟩ ∧
        ¬ home <+: place) := by
  refine ⟨?_, ?_, ?_, ?_, fun segment => resolve_eq_escapes_iff hbase⟩
  · intro segment place h
    obtain ⟨-, hbelow⟩ := (resolve_eq_ok_iff_leads hbase).mp h
    exact settles_of_isCanonical hbase (isCanonical_of_resolve h hnamed.cwd) hbelow
  · intro way node hnode hlink
    have hproper := hnamed.nodes (home ++ way) (Option.isSome_iff_exists.mpr ⟨node, hnode⟩)
    have hstands : fs.Stands (home ++ way) := ⟨node, hnode, hlink⟩
    have hsettles := settles_of_isCanonical hbase (hstands.isCanonical hproper)
      (List.prefix_append home way)
    exact hsettles.relative way rfl
  · intro way name target place hlink
    have hproper := hnamed.nodes _ (Option.isSome_iff_exists.mpr ⟨_, hlink⟩)
    exact resolve_link_iff hbase hproper hlink
  · intro segment
    rw [exists_resolve_eq_unresolvable_iff hbase]
    refine or_congr_right ⟨.inr, ?_⟩
    rintro (hcircles | hmany)
    · exact hcircles (maxLinks + 1)
    · exact hmany

def linkedRecordings : Node := .dir [
  ("1.ts".toList, .file [0x47] none), ("last".toList, .link "./1.ts".toList),
  ("again".toList, .link "again/x".toList), ("out".toList, .link "../vault".toList)] none

def linked : FileSystem where
  entries := [("record".toList, linkedRecordings), ("vault".toList, .dir [] none)]
  cwd := []

theorem wellNamed_linked : linked.WellNamed where
  cwd := List.forall_mem_nil _
  nodes := by
    have hrecord : linkedRecordings.WellNamed := by
      refine Node.wellNamed_dir fun e he => ?_
      simp only [List.mem_cons, List.not_mem_nil, or_false] at he
      rcases he with rfl | rfl | rfl | rfl
      all_goals exact ⟨by decide, Node.wellNamed_of_not_isDir rfl⟩
    have hvault : (Node.dir [] none).WellNamed := Node.wellNamed_dir (List.forall_mem_nil _)
    refine Node.wellNamed_dir fun e he => ?_
    rcases List.mem_cons.mp he with rfl | he
    · exact ⟨by decide, hrecord⟩
    · obtain rfl := List.mem_singleton.mp he
      exact ⟨by decide, hvault⟩

theorem stands_record : linked.Stands ["record".toList] :=
  FileSystem.stands_of_isDirAt rfl

theorem stands_vault : linked.Stands ["vault".toList] :=
  FileSystem.stands_of_isDirAt rfl

theorem stands_recording : linked.Stands (["record".toList] ++ ["1.ts".toList]) :=
  ⟨.file [0x47] none, rfl, nofun⟩

theorem canonical_linked : linked.canonical "/record".toList = .ok ["record".toList] :=
  (stands_record.isCanonical (by decide)).canonical_eq

/-- The cycle grows with every turn, so its course is never the same again. -/
theorem circles_again : Course.Circles linked (course ["record".toList] "again".toList) := by
  have hdown : Course.Leads linked (course ["record".toList] "again".toList) 0
      ⟨["record".toList], ["again".toList]⟩ :=
    Course.leads_of_stands [] (by decide) stands_record ["again".toList]
  have hturn : Course.Step linked ⟨["record".toList], ["again".toList]⟩ 1
      ⟨["record".toList], ["again".toList, "x".toList]⟩ :=
    @Course.Step.turn linked _ _ [] "again/x".toList rfl rfl rfl
  exact hdown.circles (Course.circles_of_again (.single hturn) [])

theorem leads_out : Course.Leads linked (course ["record".toList] "out".toList) 1
    ⟨["vault".toList], []⟩ := by
  have hdown : Course.Leads linked (course ["record".toList] "out".toList) 0
      ⟨["record".toList], ["out".toList]⟩ :=
    Course.leads_of_stands [] (by decide) stands_record ["out".toList]
  have hturn : Course.Step linked ⟨["record".toList], ["out".toList]⟩ 1
      ⟨["record".toList], ["..".toList, "vault".toList]⟩ :=
    @Course.Step.turn linked _ _ [] "../vault".toList rfl rfl rfl
  have hup : Course.Step linked ⟨["record".toList], ["..".toList, "vault".toList]⟩ 0
      ⟨[], ["vault".toList]⟩ := .climb rfl rfl rfl
  have hvault : Course.Leads linked ⟨[], ["vault".toList]⟩ 0 ⟨["vault".toList], []⟩ :=
    Course.leads_of_stands [] (by decide) stands_vault []
  exact hdown.trans (.step hturn (.step hup hvault))

/-- A recording is found by its other name too; a cycle cannot be resolved, and the way out of the
directory escapes. -/
theorem resolve_retracts_of_linked :
    linked.WellNamed ∧ linked.canonical "/record".toList = .ok ["record".toList] ∧
    resolve linked "/record".toList "last".toList = .ok ["record".toList, "1.ts".toList] ∧
    Settles linked "/record".toList ["record".toList] ["record".toList, "1.ts".toList] ∧
    (∃ cause, resolve linked "/record".toList "again".toList = .error (.unresolvable cause)) ∧
    resolve linked "/record".toList "out".toList = .error .escapes := by
  obtain ⟨hsettles, -, hlinks, hunresolvable, hescapes⟩ :=
    resolve_retracts wellNamed_linked canonical_linked
  have hself : Course.Step linked ⟨["record".toList], [".".toList, "1.ts".toList]⟩ 0
      ⟨["record".toList], ["1.ts".toList]⟩ := .stay rfl rfl
  have hleads := Course.Leads.step hself
    (Course.leads_of_stands _ (by decide) stands_recording [])
  have hlast : resolve linked "/record".toList "last".toList =
      .ok ["record".toList, "1.ts".toList] :=
    (hlinks [] "last".toList "./1.ts".toList _ rfl).mpr ⟨⟨0, by decide, hleads⟩, by decide⟩
  exact ⟨wellNamed_linked, canonical_linked, hlast, hsettles _ _ hlast,
    (hunresolvable _).mpr (.inr (.inl circles_again)),
    (hescapes _).mpr ⟨1, _, by decide, leads_out, by decide⟩⟩

end Containment
end MediaPerimeter
