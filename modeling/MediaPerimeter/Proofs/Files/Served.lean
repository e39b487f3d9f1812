import MediaPerimeter.Files.Served
import MediaPerimeter.Proofs.Files.Walk

/-!
# What a directory serves

A directory offers the regular files below it whose extension is allowed. What a segment reads is
such a file, and each such file is read by the segment that names the way down to it.
-/
namespace MediaPerimeter
open MediaPerimeter.Path

namespace Containment

theorem undotted_of_isProper {p : Place} (hp : p.IsProper) (here : Place) :
    undotted here p = here ++ p := by
  induction p generalizing here with
  | nil => rw [undotted, List.append_nil]
  | cons name rest ih =>
    obtain ⟨⟨hself, hparent, -⟩, hrest⟩ := Place.isProper_cons.mp hp
    rw [undotted, hself, if_neg Bool.false_ne_true, hparent, if_neg Bool.false_ne_true, ih hrest,
      ← List.append_cons]

theorem isProper_undotted {here : Place} {todo : List Text} (hhere : here.IsProper)
    (htodo : ∀ name ∈ todo, '/' ∉ name) : Place.IsProper (undotted here todo) := by
  induction todo generalizing here with
  | nil => exact hhere
  | cons name rest ih =>
    obtain ⟨hname, hrest⟩ := List.forall_mem_cons.mp htodo
    rw [undotted]
    split
    · exact ih hhere hrest
    · rename_i hself
      split
      · exact ih hhere.dropLast hrest
      · rename_i hparent
        have hproper : Path.IsProper name :=
          ⟨eq_false_of_ne_true hself, eq_false_of_ne_true hparent, hname⟩
        refine ih ?_ hrest
        exact Place.isProper_append.mpr
          ⟨hhere, Place.isProper_cons.mpr ⟨hproper, List.forall_mem_nil _⟩⟩

variable {fs : FileSystem} {base segment : Text} {home place : Place}

/-- The place that a segment spells has proper names, whatever stands there. -/
theorem isProper_joined (hbase : fs.canonical base = .ok home) (hcwd : fs.cwd.IsProper)
    (segment : Text) : (joined home segment).IsProper := by
  have hstart : Place.IsProper (FileSystem.start home segment) := by
    unfold FileSystem.start
    split
    · exact List.forall_mem_nil _
    · exact FileSystem.isProper_of_canonical hbase hcwd
  exact isProper_undotted hstart fun name => Text.not_mem_of_mem_split

theorem resolve_eq_ok_iff : resolve fs base segment = .ok place ↔
    ∃ home, fs.canonical base = .ok home ∧
      fs.walk maxLinks [] (joined home segment) = .ok place ∧ home <+: place := by
  constructor
  · intro h
    unfold resolve at h
    cases hbase : fs.canonical base with
    | error cause =>
      rw [hbase] at h
      cases h
    | ok home =>
      simp only [hbase] at h
      cases hwalk : fs.walk maxLinks [] (joined home segment) with
      | error cause =>
        simp only [hwalk] at h
        cases h
      | ok p =>
        simp only [hwalk] at h
        split at h
        · cases h
          exact ⟨home, rfl, hwalk, ‹_›⟩
        · cases h
  · rintro ⟨home, hbase, hwalk, hbelow⟩
    simp only [resolve, hbase, hwalk, if_pos hbelow]

theorem resolve_of_joined {node : Node} (hbase : fs.canonical base = .ok home)
    (hproper : place.IsProper) (hlink : ∀ target, node ≠ .link target)
    (hnode : fs.at? place = some node) (hjoined : joined home segment = place)
    (hbelow : home <+: place) : resolve fs base segment = .ok place := by
  refine resolve_eq_ok_iff.mpr ⟨home, hbase, ?_, hbelow⟩
  rw [hjoined]
  exact FileSystem.walk_of_isProper hproper hlink hnode maxLinks

/-- The segment that names the way down to a node leads to it. -/
theorem resolve_of_names {way : Place} {node : Node} (hbase : fs.canonical base = .ok home)
    (hproper : Place.IsProper (home ++ way)) (hlink : ∀ target, node ≠ .link target)
    (hnode : fs.at? (home ++ way) = some node) (hnames : names segment = way) :
    resolve fs base segment = .ok (home ++ way) := by
  have hway : way.IsProper := (Place.isProper_append.mp hproper).2
  have hrelative : isAbsolute segment = false := not_isAbsolute (hnames ▸ hway)
  have hjoined : joined home segment = home ++ way := by
    rw [joined, FileSystem.start, hrelative, if_neg Bool.false_ne_true, hnames,
      undotted_of_isProper hway]
  exact resolve_of_joined hbase hproper hlink hnode hjoined (List.prefix_append home way)

end Containment

namespace FileSystem

variable {fs : FileSystem} {p : Place} {node : Node}

theorem openAt_of_closed {error : SystemError} (hnode : fs.at? p = some node)
    (h : node.closed? = some error) : fs.openAt p = .error error := by simp only [openAt, hnode, h]

theorem openAt_of_not_closed (hnode : fs.at? p = some node) (h : node.closed? = none) :
    fs.openAt p = .ok node := by simp only [openAt, hnode, h]

theorem openAt_eq_ok_iff : fs.openAt p = .ok node ↔
    fs.at? p = some node ∧ node.closed? = none := by
  constructor
  · intro h
    unfold openAt at h
    split at h
    · cases h
    · rename_i inner hinner
      split at h
      · cases h
      · cases h
        exact ⟨hinner, ‹_›⟩
  · rintro ⟨hnode, h⟩
    exact openAt_of_not_closed hnode h

end FileSystem

namespace ServedDirectory

/-- A regular file below the directory, with an extension that is served. -/
structure Offers (d : ServedDirectory) (fs : FileSystem) (home place : Place) (extension : Text)
    (bytes : Bytes) : Prop where
  base : fs.canonical d.base = .ok home
  below : home <+: place
  proper : place.IsProper
  file : fs.at? place = some (.file bytes none)
  named : place.getLast?.bind Path.extension? = some extension
  allowed : extension.lower ∈ d.extensions

variable {d : ServedDirectory} {fs : FileSystem} {home place : Place} {extension : Text}
  {bytes : Bytes}

theorem Offers.canonical (h : d.Offers fs home place extension bytes) :
    fs.canonical place.text = .ok place :=
  FileSystem.canonical_text h.proper (by nofun) h.file

/-- A directory is no file, so what it offers lies strictly below it. -/
theorem Offers.ne_home (h : d.Offers fs home place extension bytes)
    (hdir : fs.isDirAt home = true) : place ≠ home := by
  rintro rfl
  rw [FileSystem.isDirAt, h.file] at hdir
  cases hdir

theorem Offers.mediaType_eq (h : d.Offers fs home place extension bytes) :
    (place.getLast?.map MediaType.ofName).getD MediaType.octets =
      MediaType.ofExtension extension := by
  obtain ⟨name, hname, hext⟩ := Option.bind_eq_some_iff.mp h.named
  rw [hname, Option.map_some, Option.getD_some, MediaType.ofName, hext]
  rfl

theorem servedPlace_eq_ok_iff {segment : Text} : d.servedPlace fs segment = .ok place ↔
    Containment.resolve fs d.base segment = .ok place ∧ extensionAt place ∈ d.extensions := by
  unfold servedPlace
  cases Containment.resolve fs d.base segment with
  | error f => simp
  | ok p =>
    by_cases hext : extensionAt p ∈ d.extensions
    · simp only [if_pos hext, Except.ok.injEq]
      exact ⟨fun he => ⟨he, he ▸ hext⟩, And.left⟩
    · simp only [if_neg hext, reduceCtorEq, Except.ok.injEq, false_iff, not_and]
      exact fun he => he ▸ hext

theorem read_eq_ok_iff {segment : Text} {file : ServedFile} :
    d.read fs segment = .ok file ↔
      ∃ place bytes, d.servedPlace fs segment = .ok place ∧
        fs.at? place = some (.file bytes none) ∧
        file = ⟨(place.getLast?.map MediaType.ofName).getD MediaType.octets, bytes⟩ := by
  unfold read
  cases d.servedPlace fs segment with
  | error f => simp
  | ok p =>
    constructor
    · intro h
      dsimp only at h
      split at h
      · cases h
      · rename_i bytes closed hopen
        cases h
        obtain ⟨hnode, hclosed⟩ := FileSystem.openAt_eq_ok_iff.mp hopen
        obtain rfl : closed = none := hclosed
        exact ⟨p, bytes, rfl, hnode, rfl⟩
      · cases h
    · rintro ⟨place, bytes, ⟨⟩, hnode, rfl⟩
      dsimp only
      rw [FileSystem.openAt_of_not_closed hnode rfl]

/-- What is read is offered. -/
theorem exists_offers_of_read {segment : Text} {file : ServedFile}
    (h : d.read fs segment = .ok file) (hcwd : fs.cwd.IsProper) (hext : [] ∉ d.extensions) :
    ∃ home place extension bytes, d.Offers fs home place extension bytes ∧
      file = ⟨MediaType.ofExtension extension, bytes⟩ := by
  obtain ⟨place, bytes, hplace, hfile, rfl⟩ := read_eq_ok_iff.mp h
  obtain ⟨hresolve, hallowed⟩ := servedPlace_eq_ok_iff.mp hplace
  obtain ⟨home, hbase, hwalk, hbelow⟩ := Containment.resolve_eq_ok_iff.mp hresolve
  have hjoined := Containment.isProper_joined hbase hcwd segment
  have hproper := FileSystem.isProper_of_walk hwalk (List.forall_mem_nil _) fun name hname =>
    (hjoined name hname).2.2
  cases hnamed : place.getLast?.bind Path.extension? with
  | none =>
    rw [extensionAt, hnamed] at hallowed
    exact absurd hallowed hext
  | some extension =>
    rw [extensionAt, hnamed] at hallowed
    have hoffers : d.Offers fs home place extension bytes :=
      ⟨hbase, hbelow, hproper, hfile, hnamed, hallowed⟩
    exact ⟨home, place, extension, bytes, hoffers, by rw [hoffers.mediaType_eq]⟩

/-- What is offered is read by the names that lead down to it. -/
theorem Offers.read_eq {way : Place} {segment : Text}
    (h : d.Offers fs home (home ++ way) extension bytes) (hnames : names segment = way) :
    d.read fs segment = .ok ⟨MediaType.ofExtension extension, bytes⟩ := by
  have hresolve : Containment.resolve fs d.base segment = .ok (home ++ way) :=
    Containment.resolve_of_names h.base h.proper (by nofun) h.file hnames
  have hallowed : extensionAt (home ++ way) ∈ d.extensions := by
    rw [extensionAt, h.named]
    exact h.allowed
  exact read_eq_ok_iff.mpr ⟨_, bytes, servedPlace_eq_ok_iff.mpr ⟨hresolve, hallowed⟩, h.file,
    by rw [h.mediaType_eq]⟩

end ServedDirectory
end MediaPerimeter
