import MediaPerimeter.Proofs.Files.Retraction

/-!
# Locating and reading

A file can be located, which tells its place, or read. The one looks at what is there, the other opens
it first. Both come to the same verdict, whatever dots and links the segment leads through, but where
the node cannot be opened: then reading fails for that, and a file is located all the same.
-/
namespace MediaPerimeter
open MediaPerimeter.Path

theorem Path.fileName?_text {p : Place} (hp : p.IsProper) : fileName? p.text = p.getLast? := by
  cases p with
  | nil => decide
  | cons first rest =>
    have hkept : (names (Place.text (first :: rest))).filter (!isSelf ·) = first :: rest := by
      rw [Place.names_text (List.cons_ne_nil first rest) hp, List.filter_cons_of_neg (by decide)]
      exact List.filter_eq_self.mpr fun name hname => by simp [(hp name hname).1]
    rw [fileName?, hkept]
    cases hlast : (first :: rest).getLast? with
    | none => rfl
    | some last =>
      obtain ⟨-, hparent, -⟩ := hp last (List.mem_of_getLast? hlast)
      dsimp only
      rw [hparent, if_neg Bool.false_ne_true]

theorem MediaType.ofPath_text {p : Place} (hp : p.IsProper) :
    ofPath p.text = (p.getLast?.map ofName).getD octets := by
  rw [ofPath, Path.fileName?_text hp]

/-- The path of the place leads there, and a file with these bytes is what opens. -/
structure FileSystem.HoldsFile (fs : FileSystem) (place : Place) (bytes : Bytes) : Prop where
  canonical : fs.canonical place.text = .ok place
  file : fs.at? place = some (.file bytes none)

namespace ServedDirectory

/-- The segment leads to a node below the directory, with an extension that is served, and the node
does not open. -/
structure Bars (d : ServedDirectory) (fs : FileSystem) (segment : Text) (place : Place) (node : Node)
    (error : SystemError) : Prop where
  target : Containment.resolve fs d.base segment = .ok place
  allowed : extensionAt place ∈ d.extensions
  stands : fs.at? place = some node
  closed : node.closed? = some error

variable {d : ServedDirectory} {fs : FileSystem} {segment : Text} {place place' : Place}
variable {node node' : Node} {error error' : SystemError}

theorem isCanonical_of_servedPlace (h : d.servedPlace fs segment = .ok place)
    (hcwd : fs.cwd.IsProper) : fs.IsCanonical place :=
  Containment.isCanonical_of_resolve (servedPlace_eq_ok_iff.mp h).1 hcwd

theorem servedPlace_ne_system (error : SystemError) :
    d.servedPlace fs segment ≠ .error (.system error) := by
  unfold servedPlace
  split
  · simp
  · split <;> simp

theorem Bars.servedPlace_eq (h : d.Bars fs segment place node error) :
    d.servedPlace fs segment = .ok place := servedPlace_eq_ok_iff.mpr ⟨h.target, h.allowed⟩

theorem Bars.unique (h : d.Bars fs segment place node error)
    (h' : d.Bars fs segment place' node' error') :
    place = place' ∧ node = node' ∧ error = error' := by
  have hplace := h.servedPlace_eq.symm.trans h'.servedPlace_eq
  cases hplace
  have hnode := h.stands.symm.trans h'.stands
  cases hnode
  have herror := h.closed.symm.trans h'.closed
  cases herror
  exact ⟨rfl, rfl, rfl⟩

inductive Outcomes (d : ServedDirectory) (fs : FileSystem) (segment : Text) :
    Except ServedFile.Fault Place → Except ServedFile.Fault ServedFile → Prop
  | refused {fault} (h : ∀ error, fault ≠ .system error)
      (hopen : ∀ place node error, ¬ d.Bars fs segment place node error) :
      Outcomes d fs segment (.error fault) (.error fault)
  | served {place : Place} {bytes : Bytes} (h : fs.HoldsFile place bytes)
      (hopen : ∀ place node error, ¬ d.Bars fs segment place node error) :
      Outcomes d fs segment (.ok place) (.ok ⟨MediaType.ofPath place.text, bytes⟩)
  | barred {place : Place} {node : Node} {error : SystemError}
      (h : d.Bars fs segment place node error) :
      Outcomes d fs segment (if node.isFile then .ok place else .error .notRegular)
        (.error (.system error))

theorem outcomes (hcwd : fs.cwd.IsProper) (d : ServedDirectory) (segment : Text) :
    Outcomes d fs segment (d.locate fs segment) (d.read fs segment) := by
  unfold locate read
  cases hplace : d.servedPlace fs segment with
  | error fault =>
    refine .refused (fun error hfault => ?_) fun place node error hbars => ?_
    · rw [hfault] at hplace
      exact servedPlace_ne_system error hplace
    · have hserved := hbars.servedPlace_eq
      rw [hplace] at hserved
      cases hserved
  | ok place =>
    have hcanonical := isCanonical_of_servedPlace hplace hcwd
    obtain ⟨node, hnode, hlink⟩ := hcanonical.clear place (List.prefix_refl place)
    dsimp only
    cases hclosed : node.closed? with
    | some error =>
      rw [FileSystem.openAt_of_closed hnode hclosed, hnode, Option.any_some]
      obtain ⟨htarget, hallowed⟩ := servedPlace_eq_ok_iff.mp hplace
      exact .barred ⟨htarget, hallowed, hnode, hclosed⟩
    | none =>
      have hopen : ∀ place node error, ¬ d.Bars fs segment place node error := by
        intro place' node' error hbars
        have hsame := hplace.symm.trans hbars.servedPlace_eq
        cases hsame
        have hsame := hnode.symm.trans hbars.stands
        cases hsame
        rw [hbars.closed] at hclosed
        cases hclosed
      rw [FileSystem.openAt_of_not_closed hnode hclosed, hnode, Option.any_some]
      cases node with
      | link target => exact absurd rfl (hlink target)
      | dir | special => exact .refused (by simp) hopen
      | file bytes closed =>
        cases hclosed
        dsimp only
        rw [← MediaType.ofPath_text hcanonical.proper]
        exact .served ⟨hcanonical.canonical_eq, hnode⟩ hopen

/-- A segment is read just where it locates a file that opens: the bytes are those at the path of the
place, and the media type is that of the path. Both refuse it for the same fault, unless there is a
node of an allowed extension that does not open: reading fails for that, whatever kind of node it is,
while the node is located if it is a file. -/
theorem read_locate (hcwd : fs.cwd.IsProper) (d : ServedDirectory) (segment : Text) :
    (∀ file, d.read fs segment = .ok file ↔ ∃ place bytes, d.locate fs segment = .ok place ∧
      fs.HoldsFile place bytes ∧ file = ⟨MediaType.ofPath place.text, bytes⟩) ∧
    (∀ fault, (∀ error, fault ≠ .system error) → (d.read fs segment = .error fault ↔
      d.locate fs segment = .error fault ∧
        ∀ place node error, ¬ d.Bars fs segment place node error)) ∧
    (∀ error, d.read fs segment = .error (.system error) ↔
      ∃ place node, d.Bars fs segment place node error) ∧
    (∀ place node error, d.Bars fs segment place node error →
      d.locate fs segment = if node.isFile then .ok place else .error .notRegular) := by
  have houtcomes := outcomes hcwd d segment
  generalize d.locate fs segment = located, d.read fs segment = result at houtcomes
  cases houtcomes with
  | refused hfault hopen =>
    refine ⟨by simp, fun fault _ => by simp [hopen], fun error => ?_, fun place node error h => ?_⟩
    · simp [hopen, hfault error]
    · exact absurd h (hopen place node error)
  | @served place bytes hfile hopen =>
    refine ⟨fun file => ⟨?_, ?_⟩, by simp, by simp [hopen], fun place node error h => ?_⟩
    · rintro ⟨⟩
      exact ⟨place, bytes, rfl, hfile, rfl⟩
    · rintro ⟨_, _, ⟨⟩, hfile', rfl⟩
      have hsame := hfile.file.symm.trans hfile'.file
      cases hsame
      rfl
    · exact absurd h (hopen place node error)
  | @barred place node error hbars =>
    refine ⟨fun file => iff_of_false (by simp) ?_, fun fault hfault => iff_of_false ?_ ?_,
      fun error' => ⟨?_, ?_⟩, fun place' node' error' hbars' => ?_⟩
    · rintro ⟨place', bytes, hplace, hfile, -⟩
      split at hplace
      · cases hplace
        have hsame := hbars.stands.symm.trans hfile.file
        cases hsame
        cases hbars.closed
      · cases hplace
    · rintro ⟨⟩
      exact hfault error rfl
    · rintro ⟨-, hopen⟩
      exact hopen place node error hbars
    · rintro ⟨⟩
      exact ⟨place, node, hbars⟩
    · rintro ⟨place', node', hbars'⟩
      obtain ⟨-, -, rfl⟩ := hbars.unique hbars'
      rfl
    · obtain ⟨rfl, rfl, -⟩ := hbars.unique hbars'
      rfl

def locked : FileSystem where
  entries := [("record".toList, .dir [("1.ts".toList, .file [0x47] none),
    ("2.ts".toList, .file [0x47] (some .denied)), ("3.ts".toList, .dir [] none),
    ("4.ts".toList, .link "4.ts".toList), ("5.ts".toList, .dir [] (some .denied)),
    ("last".toList, .link "3.ts/.././1.ts".toList)] none)]
  cwd := []

def recordings : ServedDirectory := ⟨"/record".toList, ["ts".toList]⟩

theorem stands_recordings : locked.Stands ["record".toList] := FileSystem.stands_of_isDirAt rfl

theorem canonical_locked : locked.canonical recordings.base = .ok ["record".toList] :=
  (stands_recordings.isCanonical (by decide)).canonical_eq

/-- The link leads into a directory and out of it again. -/
theorem resolve_last : Containment.resolve locked recordings.base "last".toList =
    .ok ["record".toList, "1.ts".toList] := by
  have hinner : locked.Stands ["record".toList, "3.ts".toList] := FileSystem.stands_of_isDirAt rfl
  have hdown : Course.Leads locked
      ⟨["record".toList], ["3.ts".toList, "..".toList, ".".toList, "1.ts".toList]⟩ 0
      ⟨["record".toList, "3.ts".toList], ["..".toList, ".".toList, "1.ts".toList]⟩ :=
    .single (.enter rfl rfl rfl nofun)
  have hup : Course.Leads locked
      ⟨["record".toList, "3.ts".toList], ["..".toList, ".".toList, "1.ts".toList]⟩ 0
      ⟨["record".toList], ["1.ts".toList]⟩ :=
    .step (.climb rfl rfl rfl) (.single (.stay rfl rfl))
  have hname : Course.Step locked ⟨["record".toList], ["1.ts".toList]⟩ 0
      ⟨["record".toList, "1.ts".toList], []⟩ := .enter rfl rfl rfl nofun
  have hlink : locked.at? (["record".toList] ++ [] ++ ["last".toList]) =
      some (.link "3.ts/.././1.ts".toList) := rfl
  exact (Containment.resolve_link_iff canonical_locked (by decide) hlink).mpr
    ⟨⟨0, by decide, hdown.trans (hup.trans (.single hname))⟩, by decide⟩

/-- What cannot be opened is not read; if it is a file, it is located. -/
theorem read_locate_of_recordings :
    locked.cwd.IsProper ∧
    recordings.locate locked "last".toList = .ok ["record".toList, "1.ts".toList] ∧
    recordings.read locked "last".toList = .ok ⟨"video/mp2t", [0x47]⟩ ∧
    recordings.locate locked "2.ts".toList = .ok ["record".toList, "2.ts".toList] ∧
    recordings.read locked "2.ts".toList = .error (.system .denied) ∧
    recordings.locate locked "3.ts".toList = .error .notRegular ∧
    recordings.read locked "3.ts".toList = .error .notRegular ∧
    recordings.locate locked "5.ts".toList = .error .notRegular ∧
    recordings.read locked "5.ts".toList = .error (.system .denied) := by
  have hcwd : locked.cwd.IsProper := List.forall_mem_nil _
  have hfirst : locked.HoldsFile ["record".toList, "1.ts".toList] [0x47] :=
    ⟨FileSystem.canonical_text (by decide) (by nofun) rfl, rfl⟩
  have hsecond : recordings.Bars locked "2.ts".toList ["record".toList, "2.ts".toList]
      (.file [0x47] (some .denied)) .denied :=
    ⟨Containment.resolve_of_joined canonical_locked (by decide) (by nofun) rfl rfl (by decide),
      by decide, rfl, rfl⟩
  have hthird : recordings.servedPlace locked "3.ts".toList =
      .ok ["record".toList, "3.ts".toList] :=
    servedPlace_eq_ok_iff.mpr ⟨Containment.resolve_of_joined canonical_locked (by decide)
      (by nofun) rfl rfl (by decide), by decide⟩
  have hfifth : recordings.Bars locked "5.ts".toList ["record".toList, "5.ts".toList]
      (.dir [] (some .denied)) .denied :=
    ⟨Containment.resolve_of_joined canonical_locked (by decide) (by nofun) rfl rfl (by decide),
      by decide, rfl, rfl⟩
  have hopen : ∀ place node error, ¬ recordings.Bars locked "3.ts".toList place node error := by
    intro place node error hbars
    have hplace := hthird.symm.trans hbars.servedPlace_eq
    cases hplace
    have hnode : some (Node.dir [] none) = some node := hbars.stands
    cases hnode
    cases hbars.closed
  have hlast : recordings.locate locked "last".toList = .ok ["record".toList, "1.ts".toList] := by
    rw [locate, servedPlace_eq_ok_iff.mpr ⟨resolve_last, by decide⟩]
    rfl
  have hdir : recordings.locate locked "3.ts".toList = .error .notRegular := by
    rw [locate, hthird]
    rfl
  obtain ⟨hserved, -, -, -⟩ := read_locate hcwd recordings "last".toList
  obtain ⟨-, -, hsystem, hclosed⟩ := read_locate hcwd recordings "2.ts".toList
  obtain ⟨-, hrefused, -, -⟩ := read_locate hcwd recordings "3.ts".toList
  obtain ⟨-, -, hsystem', hlocated⟩ := read_locate hcwd recordings "5.ts".toList
  have hread := (hserved ⟨"video/mp2t", [0x47]⟩).mpr ⟨_, _, hlast, hfirst, by decide⟩
  exact ⟨hcwd, hlast, hread, hclosed _ _ _ hsecond, (hsystem _).mpr ⟨_, _, hsecond⟩, hdir,
    (hrefused _ (by simp)).mpr ⟨hdir, hopen⟩, hlocated _ _ _ hfifth, (hsystem' _).mpr ⟨_, _, hfifth⟩⟩

def deviceTree : FileSystem where
  entries := [("dev".toList, .dir [("tty".toList, .special (some .noDevice))] none)]
  cwd := []

def devices : ServedDirectory := ⟨"/dev".toList, [[]]⟩

/-- No file is in the way, and still locating and reading fail for different faults. -/
theorem read_locate_of_device :
    deviceTree.at? ["dev".toList, "tty".toList] = some (.special (some .noDevice)) ∧
    devices.locate deviceTree "tty".toList = .error .notRegular ∧
    devices.read deviceTree "tty".toList = .error (.system .noDevice) := by
  have hdev : deviceTree.Stands ["dev".toList] := FileSystem.stands_of_isDirAt rfl
  have hbase : deviceTree.canonical devices.base = .ok ["dev".toList] :=
    (hdev.isCanonical (by decide)).canonical_eq
  have hplace : devices.servedPlace deviceTree "tty".toList = .ok ["dev".toList, "tty".toList] := by
    refine servedPlace_eq_ok_iff.mpr ⟨?_, by decide⟩
    exact Containment.resolve_of_joined hbase (by decide) (by nofun) rfl rfl (by decide)
  refine ⟨rfl, ?_, ?_⟩
  · rw [locate, hplace]
    rfl
  · rw [read, hplace]
    rfl

end ServedDirectory
end MediaPerimeter
