import MediaPerimeter.Proofs.Files.Hidden
import MediaPerimeter.Proofs.Files.Retraction

/-!
# Dots on the text and dots on the way

A path with dots can be read in two ways: its dots are removed on the text, before anything is
followed, or each of them is a step that is taken in the tree. In a tree without links both come to
the same place, as far as there is something on the way. With links they do not: `..` behind a link
leads up from where the link leads to.
-/
namespace MediaPerimeter
open MediaPerimeter.Path

namespace Containment

/-- The path of the segment below a place, as it is before its dots are removed. -/
def spelled (home : Place) (segment : Text) : Text :=
  if isAbsolute segment then segment
  else if home = [] then '/' :: segment
  else home.text ++ '/' :: segment

def undot (path : Text) : Place := undotted [] (names path)

variable {fs : FileSystem} {base segment : Text} {home place : Place}

theorem undotted_append (here : Place) (front rest : List Text) :
    undotted here (front ++ rest) = undotted (undotted here front) rest := by
  induction front generalizing here with
  | nil => rfl
  | cons name more ih =>
    simp only [List.cons_append, undotted]
    split
    · exact ih here
    · split
      · exact ih here.dropLast
      · exact ih (here ++ [name])

theorem isAbsolute_spelled (home : Place) (segment : Text) :
    isAbsolute (spelled home segment) = true := by
  unfold spelled
  split
  · assumption
  · split
    · rfl
    · have habsolute := home.isAbsolute_text
      cases htext : home.text with
      | nil =>
        rw [htext] at habsolute
        cases habsolute
      | cons c rest =>
        rw [htext] at habsolute
        exact habsolute

theorem names_spelled (hhome : home.IsProper) (hrelative : isAbsolute segment = false) :
    names (spelled home segment) = [] :: (home ++ names segment) := by
  rw [spelled, hrelative, if_neg Bool.false_ne_true]
  split
  · rename_i hroot
    rw [hroot, List.nil_append, names, Text.split_cons_self]
    rfl
  · rename_i hne
    rw [names, Text.split_append, ← names, ← names, Place.names_text hne hhome]
    rfl

/-- The dots are removed from the path that is spelled. -/
theorem undot_spelled (hhome : home.IsProper) (segment : Text) :
    undot (spelled home segment) = joined home segment := by
  cases habsolute : isAbsolute segment with
  | true => rw [undot, spelled, joined, FileSystem.start, habsolute, if_pos rfl, if_pos rfl]
  | false =>
    have hself : isSelf [] = true := rfl
    rw [undot, names_spelled hhome habsolute, undotted, if_pos hself, undotted_append,
      undotted_of_isProper hhome, List.nil_append, joined, FileSystem.start, habsolute,
      if_neg Bool.false_ne_true]

/-- A path of proper names has no dots to remove. -/
theorem undot_text (hplace : place.IsProper) : undot place.text = place := by
  have hjoined := joined_text [] hplace
  rwa [joined, FileSystem.start, if_pos place.isAbsolute_text] at hjoined

/-- A path without dots: it is absolute, and there is nothing in it to remove. -/
structure IsDotless (place : Place) : Prop where
  absolute : isAbsolute place.text = true
  dotless : ∀ name ∈ names place.text, name ≠ ".".toList ∧ name ≠ "..".toList
  fixed : undot place.text = place

theorem isDotless_of_isProper (hplace : place.IsProper) : IsDotless place where
  absolute := place.isAbsolute_text
  dotless name hname := by
    cases place with
    | nil =>
      have hnames : names (Place.text []) = [[], []] := by decide
      rw [hnames] at hname
      obtain rfl : name = [] := by simpa using hname
      decide
    | cons first rest =>
      rw [Place.names_text (List.cons_ne_nil first rest) hplace] at hname
      rcases List.mem_cons.mp hname with rfl | hname
      · decide
      · obtain ⟨hself, hparent, -⟩ := hplace name hname
        constructor
        · rintro rfl
          cases hself
        · rintro rfl
          cases hparent
  fixed := undot_text hplace

end Containment

namespace Course

open Containment

variable {fs : FileSystem} {c c' : Course} {n : Nat} {place : Place}

/-- Without links each step does on the way what the removal of dots does on the text. -/
theorem Step.undotted_eq (h : Step fs c n c') (hfree : fs.LinkFree) :
    undotted c.here c.todo = undotted c'.here c'.todo := by
  cases h with
  | stay hself _ => rw [undotted, if_pos hself]
  | climb hself hparent _ => rw [undotted, hself, if_neg Bool.false_ne_true, if_pos hparent]
  | enter hself hparent _ _ =>
    rw [undotted, hself, if_neg Bool.false_ne_true, hparent, if_neg Bool.false_ne_true]
  | turn _ _ hnode => exact absurd hnode (hfree _ _)

theorem Leads.undotted_eq (h : Leads fs c n c') (hfree : fs.LinkFree) :
    undotted c.here c.todo = undotted c'.here c'.todo := by
  induction h with
  | refl => rfl
  | step first _ ih => exact (first.undotted_eq hfree).trans ih

end Course

namespace Containment

variable {fs : FileSystem} {base segment : Text} {home place : Place}

/-- A path that leads somewhere leads to the place that it spells without its dots. -/
theorem of_canonical_spelled (hfree : fs.LinkFree)
    (h : fs.canonical (spelled home segment) = .ok place) :
    undot (spelled home segment) = place ∧ fs.Stands place := by
  obtain ⟨n, -, hleads⟩ := (Course.canonical_eq_ok_iff (isAbsolute_spelled home segment)).mp h
  exact ⟨hleads.undotted_eq hfree, hleads.stands fs.stands_nil⟩

/-- Without its dots a path is absolute, and there are none left in it to remove. Where the path of a
segment leads somewhere as it is spelled, in a tree without links it leads to the same place once the
dots are removed, so the segment is resolved to that or escapes. -/
theorem resolve_spelled (hcwd : fs.cwd.IsProper) (hbase : fs.canonical base = .ok home)
    (segment : Text) :
    undot (spelled home segment) = joined home segment ∧ IsDotless (joined home segment) ∧
    ∀ place, fs.LinkFree → fs.canonical (spelled home segment) = .ok place →
      joined home segment = place ∧
      resolve fs base segment = if home <+: place then .ok place else .error .escapes := by
  have hundot := undot_spelled (FileSystem.isProper_of_canonical hbase hcwd) segment
  have hproper := isProper_joined hbase hcwd segment
  refine ⟨hundot, isDotless_of_isProper hproper, fun place hfree hplace => ?_⟩
  obtain ⟨hspells, hstands⟩ := of_canonical_spelled hfree hplace
  have hjoined : joined home segment = place := hundot.symm.trans hspells
  refine ⟨hjoined, ?_⟩
  rw [hjoined] at hproper
  split
  · rename_i hbelow
    exact resolve_of_isCanonical hbase (hstands.isCanonical hproper) hbelow hjoined
  · rename_i houtside
    have hcourse : course home segment = ⟨[], place⟩ := by rw [course, hjoined]
    have hleads : Course.Leads fs (course home segment) 0 ⟨place, []⟩ := by
      have hdown := Course.leads_of_stands [] hproper hstands []
      rwa [List.append_nil, List.nil_append, ← hcourse] at hdown
    exact (resolve_eq_escapes_iff hbase).mpr ⟨0, place, Nat.zero_le _, hleads, houtside⟩

def shelf : FileSystem where
  entries := [
    ("record".toList,
      .dir [("old".toList, .dir [] none), ("1.ts".toList, .file [0x47] none)] none),
    ("vault".toList, .dir [] none)]
  cwd := []

theorem linkFree_shelf : shelf.LinkFree := by
  refine Node.linkFree_dir fun e he => ?_
  rcases List.mem_cons.mp he with rfl | he
  · refine Node.linkFree_dir fun e he => ?_
    rcases List.mem_cons.mp he with rfl | he
    · exact Node.linkFree_dir (List.forall_mem_nil _)
    · obtain rfl := List.mem_singleton.mp he
      exact Node.linkFree_file _ _
  · obtain rfl := List.mem_singleton.mp he
    exact Node.linkFree_dir (List.forall_mem_nil _)

theorem stands_shelf : shelf.Stands ["record".toList] := FileSystem.stands_of_isDirAt rfl

theorem stands_old : shelf.Stands ["record".toList, "old".toList] :=
  FileSystem.stands_of_isDirAt rfl

theorem stands_shelved : shelf.Stands ["record".toList, "1.ts".toList] :=
  ⟨.file [0x47] none, rfl, nofun⟩

theorem canonical_shelf : shelf.canonical "/record".toList = .ok ["record".toList] :=
  (stands_shelf.isCanonical (by decide)).canonical_eq

/-- Dots and empty names on the way do not matter, nor does a climb above the root. -/
theorem resolve_spelled_of_shelf :
    shelf.cwd.IsProper ∧ shelf.canonical "/record".toList = .ok ["record".toList] ∧
    shelf.LinkFree ∧
    shelf.canonical (spelled ["record".toList] "old/..//./1.ts".toList) =
      .ok ["record".toList, "1.ts".toList] ∧
    resolve shelf "/record".toList "old/..//./1.ts".toList = .ok ["record".toList, "1.ts".toList] ∧
    shelf.canonical (spelled ["record".toList] "../../../vault".toList) = .ok ["vault".toList] ∧
    resolve shelf "/record".toList "../../../vault".toList = .error .escapes := by
  have hcwd : shelf.cwd.IsProper := List.forall_mem_nil _
  have hinside : shelf.canonical (spelled ["record".toList] "old/..//./1.ts".toList) =
      .ok ["record".toList, "1.ts".toList] := by
    have hdown := Course.leads_of_stands [] (by decide) stands_old
      ["..".toList, [], ".".toList, "1.ts".toList]
    have hnames := Course.leads_of_stands ["record".toList] (by decide) stands_shelved []
    refine (Course.canonical_eq_ok_iff rfl).mpr ⟨0, by decide, ?_⟩
    exact .step (.stay rfl rfl) <| hdown.trans <| .step (.climb rfl rfl rfl) <|
      .step (.stay rfl rfl) <| .step (.stay rfl rfl) hnames
  have houtside : shelf.canonical (spelled ["record".toList] "../../../vault".toList) =
      .ok ["vault".toList] := by
    have hdown := Course.leads_of_stands [] (by decide) stands_shelf
      ["..".toList, "..".toList, "..".toList, "vault".toList]
    have hvault : shelf.Stands ["vault".toList] := FileSystem.stands_of_isDirAt rfl
    have hname := Course.leads_of_stands [] (by decide) hvault []
    refine (Course.canonical_eq_ok_iff rfl).mpr ⟨0, by decide, ?_⟩
    exact .step (.stay rfl rfl) <| hdown.trans <| .step (.climb rfl rfl rfl) <|
      .step (.climb rfl rfl rfl) <| .step (.climb rfl rfl rfl) hname
  obtain ⟨-, -, hserved⟩ := resolve_spelled hcwd canonical_shelf "old/..//./1.ts".toList
  obtain ⟨-, -, hescaped⟩ := resolve_spelled hcwd canonical_shelf "../../../vault".toList
  exact ⟨hcwd, canonical_shelf, linkFree_shelf, hinside, (hserved _ linkFree_shelf hinside).2,
    houtside, (hescaped _ linkFree_shelf houtside).2⟩

end Containment
end MediaPerimeter
