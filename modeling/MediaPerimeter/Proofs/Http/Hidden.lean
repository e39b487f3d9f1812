import MediaPerimeter.Proofs.Files.Hidden
import MediaPerimeter.Proofs.Http.Files

/-!
# Nothing is seen outside the directories

The routes of the files tell nothing of what their directory hides: each such file is missing in the
same words. So two trees without links that agree from the directory on down cannot be told apart.
-/
namespace MediaPerimeter.Http

open Containment FileSystem
open Net (Log)

/-- What is shown of a response: to one who asks for the head, all but the body. -/
def Request.shown (r : Request) (response : Response) : Response :=
  if r.isHead then { response with body := .empty } else response

namespace Service

variable {s : Service} {now : Instant} {random : BitVec 128} {r : Request} {log : Log}
variable {route : Route} {d : ServedDirectory}

theorem finish_eq_shown (hmethod : route.hasMethod r.method = true) (response : Response) :
    finish r (some route) response = r.shown response := by
  simp only [finish, hmethod, ↓reduceIte, Request.shown]

/-- The stages of a request to a route of files. -/
theorem run_handle_file (hroute : Route.ofPath? r.path = some route)
    (hd : s.directory? route = some d) :
    ((s.handle now random r).run log).1 = finish r (some route)
      (if r.isTooLong then .plain 413 "length limit exceeded"
      else if route.hasMethod r.method then ((s.perform now random r route).run log).1
      else { status := 405 }) := by
  have hopen : route.isProtected = false := by cases route <;> first | rfl | cases hd
  rw [run_handle hroute]
  cases hlong : r.isTooLong with
  | true => rw [run_respond_tooLong hlong, if_pos rfl]
  | false =>
    rw [respond_open hlong hopen, dispatch, if_neg Bool.false_ne_true]
    split <;> rfl

theorem status_handle_file (hroute : Route.ofPath? r.path = some route)
    (hd : s.directory? route = some d) :
    ((s.handle now random r).run log).1.status =
      if r.isTooLong then 413
      else if route.hasMethod r.method then ((s.perform now random r route).run log).1.status
      else 405 := by
  rw [run_handle_file hroute hd, status_finish]
  split
  · rfl
  · split <;> rfl

/-- No stage in front of the file has a say in the answer to a short request that can be read. -/
theorem status_handle_segment (hroute : Route.ofPath? r.path = some route)
    (hd : s.directory? route = some d) (hshort : r.isTooLong = false)
    (hmethod : route.hasMethod r.method = true) {segment : Text}
    (hsegment : route.segment? = some segment) :
    ((s.handle now random r).run log).1.status = (s.file d segment).status := by
  obtain ⟨hperform, -⟩ := perform_file hd now random r log
  rw [status_handle_file hroute hd, hshort, if_neg Bool.false_ne_true, if_pos hmethod,
    hperform segment hsegment]

theorem file_of_hides {segment : Text} (h : d.Hides s.files segment) :
    s.file d segment = s.fail .fileNotFound := by
  obtain ⟨fault, hread, hfailure⟩ := h.exists_fault
  rw [file, hread, answer, hfailure]

/-- An answer that shows anything of a file comes from below the directory. -/
theorem exists_leads_of_perform (hd : s.directory? route = some d)
    (h : ((s.perform now random r route).run log).1.status = 200 ∨
      ((s.perform now random r route).run log).1.status = 403) :
    ∃ segment home place, route.segment? = some segment ∧
      Leads s.files d.base segment home place ∧ home <+: place := by
  obtain ⟨hread, hunread⟩ := perform_file hd now random r log
  cases hsegment : route.segment? with
  | none =>
    rw [hunread hsegment] at h
    exact absurd h (by decide)
  | some segment =>
    rw [hread segment hsegment] at h
    by_cases hhidden : d.Hides s.files segment
    · rw [file_of_hides hhidden] at h
      have hstatus : (s.fail .fileNotFound).status = 404 := rfl
      rw [hstatus] at h
      exact absurd h (by decide)
    · obtain ⟨home, place, hleads, hbelow⟩ := ServedDirectory.exists_leads_of_not_hides hhidden
      exact ⟨segment, home, place, rfl, hleads, hbelow⟩

section Twins

variable {files : FileSystem} {home : Place}

theorem file_of_sameBelow (hfree : s.files.LinkFree) (hfree' : files.LinkFree)
    (hcwd : s.files.cwd.IsProper) (hbase : s.files.canonical d.base = .ok home)
    (hbase' : files.canonical d.base = .ok home) (hsame : SameBelow s.files files home)
    (segment : Text) : ({ s with files } : Service).file d segment = s.file d segment := by
  have hproper := Containment.isProper_joined hbase hcwd segment
  have hmissing : d.Hides s.files segment → d.Hides files segment →
      ({ s with files } : Service).file d segment = s.file d segment := by
    intro h h'
    have htwin : ({ s with files } : Service).file d segment = s.fail .fileNotFound :=
      file_of_hides h'
    rw [file_of_hides h, htwin]
  by_cases hbelow : home <+: joined home segment
  · have hbare := hsame.bare_eq hbelow
    cases hnode : s.files.at? (joined home segment) with
    | none =>
      have hnode' : files.at? (joined home segment) = none := by
        rwa [hnode, Option.map_none, eq_comm, Option.map_eq_none_iff] at hbare
      exact hmissing (ServedDirectory.hides_of_nothing hfree hbase hproper hnode)
        (ServedDirectory.hides_of_nothing hfree' hbase' hproper hnode')
    | some node =>
      have hstands : (s.files.at? (joined home segment)).isSome = true := by rw [hnode]; rfl
      have hread :=
        ServedDirectory.read_of_sameBelow hfree hfree' hbase hbase' hproper hsame hbelow hstands
      rw [file, file, hread]
      rfl
  · exact hmissing (ServedDirectory.hides_of_outside hfree hbase hproper hbelow)
      (ServedDirectory.hides_of_outside hfree' hbase' hproper hbelow)

theorem perform_of_sameFile (hd : s.directory? route = some d)
    (hsame : ∀ segment, ({ s with files } : Service).file d segment = s.file d segment)
    (now now' : Instant) (random random' : BitVec 128) (log log' : Log) :
    ((({ s with files } : Service).perform now' random' r route).run log').1 =
      ((s.perform now random r route).run log).1 := by
  cases route <;> cases hd
  · rename_i session name
    change ({ s with files } : Service).recordSegment session name = s.recordSegment session name
    simp only [recordSegment]
    congr 1
    funext session
    congr 1
    funext name
    exact hsame _
  · rename_i name
    change ({ s with files } : Service).helloVoice name = s.helloVoice name
    simp only [helloVoice]
    congr 1
    funext name
    exact hsame _

end Twins

/-- An answer 200 or 403 on a route of files comes from below its directory. Whatever the directory
hides is answered in one way, unless the request declares too long a body. And what the tree holds
elsewhere changes no answer, if there are no links. -/
theorem handle_hidden {s : Service} {r : Request} {route : Route} {d : ServedDirectory}
    (hroute : Route.ofPath? r.path = some route) (hd : s.directory? route = some d) (now : Instant)
    (random : BitVec 128) (log : Log) :
    (((s.handle now random r).run log).1.status = 200 ∨
      ((s.handle now random r).run log).1.status = 403 →
        ∃ segment home place, route.segment? = some segment ∧
          Leads s.files d.base segment home place ∧ home <+: place) ∧
    (route.hasMethod r.method = true → ∀ segment, route.segment? = some segment →
      d.Hides s.files segment → ((s.handle now random r).run log).1 =
        r.shown (if r.isTooLong then .plain 413 "length limit exceeded"
          else Failure.fileNotFound.response s.environment.isProduction)) ∧
    (∀ files home, s.files.LinkFree → files.LinkFree → s.files.cwd.IsProper →
      s.files.canonical d.base = .ok home → files.canonical d.base = .ok home →
      SameBelow s.files files home → ∀ now' random' log',
        ((({ s with files } : Service).handle now' random' r).run log').1 =
          ((s.handle now random r).run log).1) := by
  refine ⟨?_, ?_, ?_⟩
  · intro hstatus
    rw [status_handle_file hroute hd] at hstatus
    split at hstatus
    · exact absurd hstatus (by decide)
    · split at hstatus
      · exact exists_leads_of_perform hd hstatus
      · exact absurd hstatus (by decide)
  · intro hmethod segment hsegment hhidden
    obtain ⟨hread, -⟩ := perform_file hd now random r log
    rw [run_handle_file hroute hd, finish_eq_shown hmethod, if_pos hmethod, hread segment hsegment,
      file_of_hides hhidden]
    rfl
  · intro files home hfree hfree' hcwd hbase hbase' hsame now' random' log'
    have hfile := file_of_sameBelow hfree hfree' hcwd hbase hbase' hsame
    have hd' : ({ s with files } : Service).directory? route = some d := hd
    rw [run_handle_file hroute hd', run_handle_file hroute hd,
      perform_of_sameFile hd hfile now now' random random' log log']

def surroundings (others : List (Text × Node)) : FileSystem where
  entries := ("record".toList, .dir [("1.ts".toList, .file [0x47] none)] none) :: others
  cwd := []

def neighbour : Service where
  settings := { recordDir := "/record".toList }
  environment _ := none
  files := surroundings [("secret.ts".toList, .file [0x00] none)]
  network := offline

def approach (path : String) : Request where
  method := "GET".toList
  target := ("/terraform/v1/hooks/record/hls/" ++ path).toList
  headers := []
  body := []

theorem canonical_surroundings (others : List (Text × Node)) :
    (surroundings others).canonical "/record".toList = .ok ["record".toList] := by
  have hdir : (surroundings others).at? ["record".toList] =
      some (.dir [("1.ts".toList, .file [0x47] none)] none) := rfl
  exact canonical_text (by decide) (by nofun) hdir

theorem linkFree_surroundings {others : List (Text × Node)} (h : ∀ e ∈ others, e.2.LinkFree) :
    (surroundings others).LinkFree := by
  have hrecord : Node.LinkFree (.dir [("1.ts".toList, .file [0x47] none)] none) :=
    Node.linkFree_dir fun e he => by
      obtain rfl := List.mem_singleton.mp he
      exact Node.linkFree_file _ _
  exact Node.linkFree_dir (List.forall_mem_cons.mpr ⟨hrecord, h⟩)

theorem linkFree_neighbour : neighbour.files.LinkFree := by
  refine linkFree_surroundings fun e he => ?_
  obtain rfl := List.mem_singleton.mp he
  exact Node.linkFree_file _ _

theorem canonical_neighbour :
    neighbour.files.canonical neighbour.records.base = .ok ["record".toList] :=
  canonical_surroundings _

theorem isProper_neighbour (segment : Text) : (joined ["record".toList] segment).IsProper :=
  Containment.isProper_joined canonical_neighbour (List.forall_mem_nil _) segment

theorem status_recording :
    ((neighbour.handle ⟨0, 0⟩ 0 (approach "./1.ts")).run []).1.status = 200 := by
  have hroute : Route.ofPath? (approach "./1.ts").path =
      some (.recordSegment ".".toList "1.ts".toList) := by decide +kernel
  have hsegment : Route.segment? (.recordSegment ".".toList "1.ts".toList) =
      some "./1.ts".toList := by decide +kernel
  have hresolve : resolve neighbour.files neighbour.records.base "./1.ts".toList =
      .ok ["record".toList, "1.ts".toList] := by
    rw [ServedDirectory.resolve_of_leads (ServedDirectory.leads_of_linkFree linkFree_neighbour
      canonical_neighbour (isProper_neighbour _) rfl)]
    rfl
  have hplace := ServedDirectory.servedPlace_eq_ok_iff.mpr ⟨hresolve, (by decide)⟩
  have hfile : neighbour.files.at? ["record".toList, "1.ts".toList] =
      some (.file [0x47] none) := rfl
  have hread := ServedDirectory.read_eq_ok_iff.mpr ⟨_, _, hplace, hfile, rfl⟩
  have hrecords : neighbour.directory? (.recordSegment ".".toList "1.ts".toList) =
      some neighbour.records := rfl
  rw [status_handle_segment hroute hrecords rfl (by decide) hsegment, file_of_read hread]
  rfl

/-- The secret is answered for as a missing file is, and just so where there is none. A recording
is answered for because it lies in the directory. -/
theorem handle_hidden_of_trespass :
    ((neighbour.handle ⟨0, 0⟩ 0 (approach "%2e./secret.ts")).run []).1 =
        Failure.fileNotFound.response false ∧
      ((({ neighbour with files := surroundings [] } : Service).handle ⟨0, 0⟩ 0
        (approach "%2e./secret.ts")).run []).1 = Failure.fileNotFound.response false ∧
      ∃ segment home place,
        Route.segment? (.recordSegment ".".toList "1.ts".toList) = some segment ∧
        Leads neighbour.files neighbour.records.base segment home place ∧ home <+: place := by
  have hroute : Route.ofPath? (approach "%2e./secret.ts").path =
      some (.recordSegment "%2e.".toList "secret.ts".toList) := by decide +kernel
  have hrecording : Route.ofPath? (approach "./1.ts").path =
      some (.recordSegment ".".toList "1.ts".toList) := by decide +kernel
  have hrecords : ∀ session name,
      neighbour.directory? (.recordSegment session name) = some neighbour.records :=
    fun _ _ => rfl
  have hsegment : Route.segment? (.recordSegment "%2e.".toList "secret.ts".toList) =
      some "../secret.ts".toList := by decide +kernel
  have hhidden : neighbour.records.Hides neighbour.files "../secret.ts".toList :=
    ServedDirectory.hides_of_outside linkFree_neighbour canonical_neighbour
      (isProper_neighbour _) (by decide)
  have hcwd : neighbour.files.cwd.IsProper := List.forall_mem_nil _
  obtain ⟨-, hmissing, htwin⟩ := handle_hidden hroute (hrecords _ _) ⟨0, 0⟩ 0 []
  have hmissing := hmissing rfl _ hsegment hhidden
  have htwin := htwin (surroundings []) _ linkFree_neighbour (linkFree_surroundings nofun) hcwd
    canonical_neighbour (canonical_surroundings []) (fun way => rfl) ⟨0, 0⟩ 0 []
  obtain ⟨hinside, -, -⟩ := handle_hidden hrecording (hrecords _ _) ⟨0, 0⟩ 0 []
  exact ⟨hmissing, htwin.trans hmissing, hinside (.inl status_recording)⟩

def sealed : Service where
  settings := neighbour.settings
  environment := neighbour.environment
  files := ⟨[("record".toList, .dir [("shut.ts".toList, .dir [] (some .denied))] none)], []⟩
  network := neighbour.network

theorem servedPlace_sealed : sealed.records.servedPlace sealed.files "./shut.ts".toList =
    .ok ["record".toList, "shut.ts".toList] := by
  have hdir : sealed.files.at? ["record".toList] =
      some (.dir [("shut.ts".toList, .dir [] (some .denied))] none) := rfl
  have hbase : sealed.files.canonical sealed.records.base = .ok ["record".toList] :=
    canonical_text (by decide) (by nofun) hdir
  have hshut : sealed.files.at? ["record".toList, "shut.ts".toList] =
      some (.dir [] (some .denied)) := rfl
  refine ServedDirectory.servedPlace_eq_ok_iff.mpr ⟨?_, by decide⟩
  exact resolve_of_joined hbase (by decide) (by nofun) hshut rfl (by decide)

/-- A missing file is not answered by 404 if the request declares too long a body, has another method
or cannot be read, nor is a directory that cannot be opened. -/
theorem exists_hidden_not_missing :
    let long : Request := { approach "./none.ts" with
      headers := [("Content-Length".toList, Utf8.encode "65537".toList)] }
    let posted : Request := { approach "./none.ts" with method := "POST".toList }
    neighbour.records.Hides neighbour.files "./none.ts".toList ∧
    ((neighbour.handle ⟨0, 0⟩ 0 long).run []).1.status = 413 ∧
    ((neighbour.handle ⟨0, 0⟩ 0 posted).run []).1.status = 405 ∧
    ((neighbour.handle ⟨0, 0⟩ 0 (approach "./%FF.ts")).run []).1.status = 400 ∧
    sealed.records.locate sealed.files "./shut.ts".toList = .error .notRegular ∧
    ((sealed.handle ⟨0, 0⟩ 0 (approach "./shut.ts")).run []).1.status = 500 := by
  intro long posted
  have hmissing : neighbour.records.Hides neighbour.files "./none.ts".toList :=
    ServedDirectory.hides_of_nothing linkFree_neighbour canonical_neighbour
      (isProper_neighbour _) rfl
  have hnone : Route.ofPath? (approach "./none.ts").path =
      some (.recordSegment ".".toList "none.ts".toList) := by decide +kernel
  have hraw : Route.ofPath? (approach "./%FF.ts").path =
      some (.recordSegment ".".toList "%FF.ts".toList) := by decide +kernel
  have hshut : Route.ofPath? (approach "./shut.ts").path =
      some (.recordSegment ".".toList "shut.ts".toList) := by decide +kernel
  have hrecords : ∀ (s : Service) (session name : Text),
      s.directory? (.recordSegment session name) = some s.records := fun _ _ _ => rfl
  refine ⟨hmissing, ?_, ?_, ?_, ?_, ?_⟩
  · rw [status_handle_file (r := long) hnone (hrecords _ _ _), if_pos (by decide)]
  · rw [status_handle_file (r := posted) hnone (hrecords _ _ _), if_neg (by decide),
      if_neg (by decide)]
  · obtain ⟨-, hunread⟩ := perform_file (hrecords neighbour ".".toList "%FF.ts".toList) ⟨0, 0⟩ 0
      (approach "./%FF.ts") []
    rw [status_handle_file hraw (hrecords _ _ _), if_neg (by decide), if_pos (by decide),
      hunread (by decide +kernel)]
  · rw [ServedDirectory.locate, servedPlace_sealed]
    rfl
  · have hread : sealed.records.read sealed.files "./shut.ts".toList =
        .error (.system .denied) := by
      rw [ServedDirectory.read, servedPlace_sealed]
      rfl
    have hsegment : Route.segment? (.recordSegment ".".toList "shut.ts".toList) =
        some "./shut.ts".toList := by decide +kernel
    rw [status_handle_segment hshut (hrecords _ _ _) rfl (by decide) hsegment, file, hread]
    rfl

end Service
end MediaPerimeter.Http
