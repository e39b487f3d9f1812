import MediaPerimeter.Http.Cause
import MediaPerimeter.Proofs.Files.Served

/-!
# What a directory hides

A directory hides what is not there, what cannot be followed, what lies outside of it and what is no
file, and all of it looks the same. In trees without links what is read is decided by the part of
the tree below the directory alone, whatever a segment touches on its way.
-/
namespace MediaPerimeter
open MediaPerimeter.Path Containment

structure Containment.Leads (fs : FileSystem) (base segment : Text) (home place : Place) : Prop where
  base : fs.canonical base = .ok home
  target : fs.walk maxLinks [] (joined home segment) = .ok place

namespace ServedDirectory

/-- A segment has no file of an allowed kind to lead to, or no directory to start from. What is there
and cannot be opened is not hidden. -/
inductive Hides (d : ServedDirectory) (fs : FileSystem) (segment : Text) : Prop
  | unavailable {cause} (h : fs.canonical d.base = .error cause)
  | unresolvable {home cause} (hbase : fs.canonical d.base = .ok home)
      (h : fs.walk maxLinks [] (joined home segment) = .error cause)
  | outside {home place} (hleads : Leads fs d.base segment home place) (h : ¬ home <+: place)
  | irregular {home place node} (hleads : Leads fs d.base segment home place)
      (hallowed : extensionAt place ∈ d.extensions) (hopen : fs.openAt place = .ok node)
      (h : node.isFile = false)

variable {d : ServedDirectory} {fs fs' : FileSystem} {segment : Text} {home place : Place}

theorem resolve_of_leads (hleads : Leads fs d.base segment home place) :
    resolve fs d.base segment = if home <+: place then .ok place else .error .escapes := by
  simp only [resolve, hleads.base, hleads.target]

/-- Whatever is hidden comes to the same failure. -/
theorem Hides.exists_fault (h : d.Hides fs segment) :
    ∃ fault, d.read fs segment = .error fault ∧ fault.failure = .fileNotFound := by
  have hrefused : ∀ fault, resolve fs d.base segment = .error fault →
      d.read fs segment = .error (.containment fault) := by
    intro fault hfault
    simp only [read, servedPlace, hfault]
  cases h with
  | @unavailable cause h =>
    have hfault : resolve fs d.base segment = .error (.baseUnavailable d.base cause) := by
      simp only [resolve, h]
    exact ⟨_, hrefused _ hfault, rfl⟩
  | @unresolvable home cause hbase h =>
    have hfault : resolve fs d.base segment = .error (.unresolvable cause) := by
      simp only [resolve, hbase, h]
    exact ⟨_, hrefused _ hfault, rfl⟩
  | outside hleads h =>
    have hfault : resolve fs d.base segment = .error .escapes := by
      rw [resolve_of_leads hleads, if_neg h]
    exact ⟨_, hrefused _ hfault, rfl⟩
  | @irregular home place node hleads hallowed hopen h =>
    by_cases hbelow : home <+: place
    · have hplace : d.servedPlace fs segment = .ok place := by
        refine servedPlace_eq_ok_iff.mpr ⟨?_, hallowed⟩
        rw [resolve_of_leads hleads, if_pos hbelow]
      refine ⟨.notRegular, ?_, rfl⟩
      simp only [read, hplace, hopen]
      cases node with
      | file => cases h
      | link | dir | special => rfl
    · have hfault : resolve fs d.base segment = .error .escapes := by
        rw [resolve_of_leads hleads, if_neg hbelow]
      exact ⟨_, hrefused _ hfault, rfl⟩

/-- What is not hidden lies in the directory. -/
theorem exists_leads_of_not_hides (h : ¬ d.Hides fs segment) :
    ∃ home place, Leads fs d.base segment home place ∧ home <+: place := by
  cases hbase : fs.canonical d.base with
  | error => exact absurd (.unavailable hbase) h
  | ok home =>
    cases htarget : fs.walk maxLinks [] (joined home segment) with
    | error => exact absurd (.unresolvable hbase htarget) h
    | ok place =>
      have hleads : Leads fs d.base segment home place := ⟨hbase, htarget⟩
      by_cases hbelow : home <+: place
      · exact ⟨home, place, hleads, hbelow⟩
      · exact absurd (.outside hleads hbelow) h

end ServedDirectory

namespace Node

def bare : Node → Node
  | .dir _ closed => .dir [] closed
  | node => node

theorem closed?_of_bare_eq {node node' : Node} (h : node.bare = node'.bare) :
    node.closed? = node'.closed? := by
  cases node <;> cases node' <;> cases h <;> rfl

def LinkFree (node : Node) : Prop := ∀ p target, node.at? p ≠ some (.link target)

theorem linkFree_file (bytes : Bytes) (closed : Option SystemError) :
    LinkFree (.file bytes closed) := by
  intro p target
  cases p with
  | nil => nofun
  | cons => nofun

theorem linkFree_dir {entries : List (Text × Node)} {closed : Option SystemError}
    (h : ∀ e ∈ entries, e.2.LinkFree) : LinkFree (.dir entries closed) := by
  intro p target hlink
  cases p with
  | nil => cases hlink
  | cons name rest =>
    obtain ⟨child, hchild, hbelow⟩ := Option.bind_eq_some_iff.mp hlink
    obtain ⟨before, after, rfl, -⟩ := List.lookup_eq_some_iff.mp hchild
    exact h (name, child) (List.mem_append_cons_self) rest target hbelow

end Node

namespace FileSystem

variable {fs fs' : FileSystem} {home p : Place}

def LinkFree (fs : FileSystem) : Prop := fs.root.LinkFree

/-- The same stands at each place from the one given on down. -/
def SameBelow (fs fs' : FileSystem) (home : Place) : Prop :=
  ∀ way, (fs.at? (home ++ way)).map Node.bare = (fs'.at? (home ++ way)).map Node.bare

/-- In a tree without links proper names lead to their own place. -/
theorem walk_of_linkFree (hfree : fs.LinkFree) (hp : p.IsProper) (links : Nat) (here : Place)
    (h : (fs.at? (here ++ p)).isSome = true) : fs.walk links here p = .ok (here ++ p) := by
  obtain ⟨node, hnode⟩ := Option.isSome_iff_exists.mp h
  refine walk_of_isProper hp ?_ hnode links
  rintro target rfl
  exact hfree _ _ hnode

/-- In a tree without links proper names lead nowhere if there is nothing at their own place. -/
theorem exists_walk_eq_error (hfree : fs.LinkFree) (hp : p.IsProper) (links : Nat) (here : Place)
    (hhere : (fs.at? here).isSome = true) (h : fs.at? (here ++ p) = none) :
    ∃ cause, fs.walk links here p = .error cause := by
  induction p generalizing here with
  | nil =>
    rw [List.append_nil] at h
    rw [h] at hhere
    cases hhere
  | cons name rest ih =>
    obtain ⟨⟨hself, hparent, -⟩, hrest⟩ := Place.isProper_cons.mp hp
    rw [walk, hself, hparent, if_neg Bool.false_ne_true, if_neg Bool.false_ne_true]
    cases hstep : fs.at? (here ++ [name]) with
    | none => exact ⟨_, rfl⟩
    | some inner =>
      have hinner : (fs.at? (here ++ [name])).isSome = true := by rw [hstep]; rfl
      rw [List.append_cons] at h
      cases inner with
      | link target => exact absurd hstep (hfree _ _)
      | file | dir | special => exact ih hrest _ hinner h

theorem SameBelow.bare_eq (h : SameBelow fs fs' home) (hbelow : home <+: p) :
    (fs.at? p).map Node.bare = (fs'.at? p).map Node.bare := by
  obtain ⟨way, rfl⟩ := hbelow
  exact h way

theorem isSome_of_bare_eq (h : (fs.at? p).map Node.bare = (fs'.at? p).map Node.bare) :
    (fs.at? p).isSome = (fs'.at? p).isSome := by
  have hsome := congrArg Option.isSome h
  rwa [Option.isSome_map, Option.isSome_map] at hsome

end FileSystem

namespace ServedDirectory

open FileSystem

variable {d : ServedDirectory} {fs fs' : FileSystem} {segment : Text} {home place : Place}

theorem leads_of_linkFree (hfree : fs.LinkFree) (hbase : fs.canonical d.base = .ok home)
    (hproper : (joined home segment).IsProper)
    (hstands : (fs.at? (joined home segment)).isSome = true) :
    Leads fs d.base segment home (joined home segment) :=
  ⟨hbase, walk_of_linkFree hfree hproper maxLinks [] hstands⟩

/-- A segment that spells a place where nothing stands is hidden. -/
theorem hides_of_nothing (hfree : fs.LinkFree) (hbase : fs.canonical d.base = .ok home)
    (hproper : (joined home segment).IsProper) (h : fs.at? (joined home segment) = none) :
    d.Hides fs segment := by
  obtain ⟨cause, hwalk⟩ := exists_walk_eq_error hfree hproper maxLinks [] rfl h
  exact .unresolvable hbase hwalk

/-- A segment that spells a place outside is hidden, whether or not anything stands there. -/
theorem hides_of_outside (hfree : fs.LinkFree) (hbase : fs.canonical d.base = .ok home)
    (hproper : (joined home segment).IsProper) (houtside : ¬ home <+: joined home segment) :
    d.Hides fs segment := by
  cases hnode : fs.at? (joined home segment) with
  | none => exact hides_of_nothing hfree hbase hproper hnode
  | some node =>
    have hstands : (fs.at? (joined home segment)).isSome = true := by rw [hnode]; rfl
    exact .outside (leads_of_linkFree hfree hbase hproper hstands) houtside

/-- What stands at a served place decides what is read there. -/
theorem read_eq_of_bare (hplace : d.servedPlace fs segment = d.servedPlace fs' segment)
    (hbare : ∀ place, d.servedPlace fs' segment = .ok place →
      (fs.at? place).map Node.bare = (fs'.at? place).map Node.bare) :
    d.read fs segment = d.read fs' segment := by
  unfold read
  rw [hplace]
  cases hserved : d.servedPlace fs' segment with
  | error fault => rfl
  | ok place =>
    have hsame := hbare place hserved
    dsimp only [openAt]
    cases hnode : fs.at? place with
    | none =>
      rw [hnode, Option.map_none, eq_comm, Option.map_eq_none_iff] at hsame
      rw [hsame]
    | some node =>
      cases hnode' : fs'.at? place with
      | none => simp [hnode, hnode'] at hsame
      | some node' =>
        rw [hnode, hnode'] at hsame
        dsimp only
        rw [Node.closed?_of_bare_eq (Option.some.inj hsame)]
        cases node'.closed? with
        | some e => rfl
        | none => cases node <;> cases node' <;> simp_all [Node.bare]

theorem read_of_sameBelow (hfree : fs.LinkFree) (hfree' : fs'.LinkFree)
    (hbase : fs.canonical d.base = .ok home) (hbase' : fs'.canonical d.base = .ok home)
    (hproper : (joined home segment).IsProper) (hsame : SameBelow fs fs' home)
    (hbelow : home <+: joined home segment)
    (hstands : (fs.at? (joined home segment)).isSome = true) :
    d.read fs segment = d.read fs' segment := by
  have hbare := hsame.bare_eq hbelow
  have hstands' : (fs'.at? (joined home segment)).isSome = true :=
    isSome_of_bare_eq hbare ▸ hstands
  have hresolve : resolve fs d.base segment = resolve fs' d.base segment := by
    rw [resolve_of_leads (leads_of_linkFree hfree hbase hproper hstands),
      resolve_of_leads (leads_of_linkFree hfree' hbase' hproper hstands')]
  have hplace : d.servedPlace fs segment = d.servedPlace fs' segment := by
    rw [servedPlace, servedPlace, hresolve]
  refine read_eq_of_bare hplace fun place hserved => ?_
  obtain ⟨hresolved, -⟩ := servedPlace_eq_ok_iff.mp hserved
  obtain ⟨home', hhome, hwalk, hinside⟩ := resolve_eq_ok_iff.mp hresolved
  rw [hbase'] at hhome
  cases hhome
  exact hsame.bare_eq hinside

end ServedDirectory
end MediaPerimeter
