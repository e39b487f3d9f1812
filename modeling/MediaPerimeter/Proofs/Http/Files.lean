import Mathlib.Data.List.TakeWhile
import MediaPerimeter.Proofs.Files.Served
import MediaPerimeter.Proofs.Http.Handle
import MediaPerimeter.Proofs.Text.Spelling

/-!
# Files that are handed out

The routes of the files hand out what their directory offers, and all of it: a file lies below the
directory exactly if it can be asked for by the escaped names that lead down to it.
-/
namespace MediaPerimeter

namespace Percent

variable {keep : UInt8 → Bool}

theorem plain_isAlphanum : Plain isAlphanum := by
  have hall : ∀ i : Fin 256, isAlphanum (.ofNat i.val) = true → i.val < 128 ∧ i.val ≠ 0x25 := by
    decide +kernel
  intro b hb
  obtain ⟨hlt, hne⟩ := hall ⟨b.toNat, b.toNat_lt⟩ (by rwa [UInt8.ofNat_toNat])
  refine ⟨hlt, ?_⟩
  rintro rfl
  exact hne rfl

theorem slash_ne_capital : ∀ i : Fin 16, '/' ≠ Hex.capital i.val := by decide

theorem slash_not_mem_escape (b : UInt8) : '/' ∉ escape b := by
  have hb := UInt8.toNat_lt b
  intro hmem
  rcases List.mem_cons.mp hmem with h | hmem
  · exact absurd h (by decide)
  rcases List.mem_cons.mp hmem with h | hmem
  · exact slash_ne_capital ⟨b.toNat / 16, by omega⟩ h
  · exact slash_ne_capital ⟨b.toNat % 16, by omega⟩ (List.mem_singleton.mp hmem)

theorem slash_not_mem_encode (hkeep : Plain keep) (hslash : keep 0x2f = false) (bs : Bytes) :
    '/' ∉ encode keep bs := by
  intro hmem
  obtain ⟨b, -, hmem⟩ := List.mem_flatMap.mp hmem
  split at hmem
  · rename_i hb
    -- A byte that stands for itself is below 128, so the slash is the byte of the slash.
    have hchar := congrArg Char.toNat (List.mem_singleton.mp hmem)
    rw [toNat_ofNat_of_lt ⟨b.toNat, (hkeep b hb).1⟩] at hchar
    have hbyte : b = 0x2f := UInt8.toNat_inj.mp hchar.symm
    rw [hbyte, hslash] at hb
    cases hb
  · exact slash_not_mem_escape b hmem

theorem encodeText_ne_nil {t : Text} (h : t ≠ []) : encodeText keep t ≠ [] := by
  cases t with
  | nil => exact absurd rfl h
  | cons c rest =>
    intro hnil
    rw [encodeText, encode, List.flatMap_eq_nil_iff] at hnil
    have hne : Utf8.encode (c :: rest) ≠ [] := by
      rw [Utf8.encode_cons]
      exact List.append_ne_nil_of_left_ne_nil String.utf8EncodeChar_ne_nil _
    obtain ⟨b, more, hbytes⟩ := List.exists_cons_of_ne_nil hne
    have hfirst := hnil b (hbytes ▸ List.mem_cons_self)
    split at hfirst <;> cases hfirst

end Percent

namespace Http
open Net (Log)
open Percent (Plain encodeText)

namespace Route

def recordText (session file : Text) : Text :=
  "/terraform/v1/hooks/record/hls".toList ++ '/' :: (session ++ '/' :: file)

def voiceText (file : Text) : Text :=
  "/terraform/v1/ai-talk/stage/hello-voices".toList ++ '/' :: file

def parameter? (t : Text) : Option Text := Utf8.decode? (Percent.decode (Utf8.encode t))

/-- What a route asks its directory for. -/
def segment? : Route → Option Text
  | recordSegment session name => do return (← parameter? session) ++ '/' :: (← parameter? name)
  | helloVoice name => parameter? name
  | _ => none

theorem find?_plainRoutes {segments : List Text} (h : 6 < segments.length) :
    (plainRoutes.find? fun r => r.1.map String.toList == segments) = none := by
  have hshort : ∀ r ∈ plainRoutes, (r.1.map String.toList).length ≤ 6 := by decide
  refine List.find?_eq_none.mpr fun r hr heq => ?_
  have hlength := hshort r hr
  rw [beq_iff_eq.mp heq] at hlength
  omega

theorem below?_append (start : List String) (rest : List Text) :
    below? start (start.map String.toList ++ rest) = some rest := by
  have hprefix : start.map String.toList <+: start.map String.toList ++ rest :=
    List.prefix_append _ rest
  rw [below?, if_pos hprefix, List.drop_left]

theorem ofSegments?_record {session file : Text} (hne : file ≠ []) :
    ofSegments? (recordPath.map String.toList ++ [session, file]) =
      some (.recordSegment session file) := by
  have hlong : 6 < (recordPath.map String.toList ++ [session, file]).length := by
    rw [List.length_append, List.length_map]
    exact (by decide : 6 < recordPath.length + 2)
  simp only [ofSegments?, find?_plainRoutes hlong, below?_append, if_neg hne]

theorem ofSegments?_voice {file : Text} (hne : file ≠ []) :
    ofSegments? (voicePath.map String.toList ++ [file]) = some (.helloVoice file) := by
  have hlong : 6 < (voicePath.map String.toList ++ [file]).length := by
    rw [List.length_append, List.length_map]
    exact (by decide : 6 < voicePath.length + 1)
  have hrecord : ¬ recordPath.map String.toList <+: voicePath.map String.toList ++ [file] := by
    intro hprefix
    have hsame : recordPath.map String.toList <+: voicePath.map String.toList :=
      List.prefix_of_prefix_length_le hprefix (List.prefix_append _ [file]) (by decide)
    exact absurd hsame (by decide)
  have hbelow : below? recordPath (voicePath.map String.toList ++ [file]) = none := by
    rw [below?, if_neg hrecord]
  simp only [ofSegments?, find?_plainRoutes hlong, hbelow, below?_append, if_neg hne]

theorem ofPath?_recordText {session file : Text} (hsession : '/' ∉ session) (hfile : '/' ∉ file)
    (hne : file ≠ []) : ofPath? (recordText session file) = some (.recordSegment session file) := by
  have hstart : Text.split '/' "/terraform/v1/hooks/record/hls".toList =
      recordPath.map String.toList := by decide
  unfold recordText
  rw [ofPath?, Text.split_append, hstart, Text.split_append,
    Text.split_of_not_mem hsession, Text.split_of_not_mem hfile, List.singleton_append,
    ofSegments?_record hne]

theorem ofPath?_voiceText {file : Text} (hfile : '/' ∉ file) (hne : file ≠ []) :
    ofPath? (voiceText file) = some (.helloVoice file) := by
  have hstart : Text.split '/' "/terraform/v1/ai-talk/stage/hello-voices".toList =
      voicePath.map String.toList := by decide
  unfold voiceText
  rw [ofPath?, Text.split_append, hstart, Text.split_of_not_mem hfile,
    ofSegments?_voice hne]

end Route

namespace Service

variable {s : Service} {now : Instant} {random : BitVec 128} {r : Request} {log : Log}

def directory? (s : Service) : Route → Option ServedDirectory
  | .recordSegment _ _ => some s.records
  | .helloVoice _ => some s.voices
  | _ => none

theorem withParameter_encodeText {keep : UInt8 → Bool} (hkeep : Plain keep) (name : String)
    (t : Text) (next : Text → Response) :
    withParameter name (encodeText keep t) next = next t := by
  rw [withParameter, encodeText, Percent.decode_encode hkeep, Utf8.decode?_encode]

theorem exists_read_of_file {d : ServedDirectory} {segment : Text}
    (h : (s.file d segment).status = 200) :
    ∃ f, d.read s.files segment = .ok f ∧ s.file d segment = .ofFile f.mediaType f.bytes := by
  unfold file at h ⊢
  cases hread : d.read s.files segment with
  | error f =>
    rw [hread] at h
    exact absurd h (status_fail_ne_ok _)
  | ok f => exact ⟨f, rfl, rfl⟩

theorem file_of_read {d : ServedDirectory} {segment : Text} {f : ServedFile}
    (h : d.read s.files segment = .ok f) : s.file d segment = .ofFile f.mediaType f.bytes := by
  rw [file, h]
  rfl

/-- Every extension that a route serves has a media type of its own. -/
theorem ofExtension_ne_octets {route : Route} {d : ServedDirectory} {extension : Text}
    (hd : s.directory? route = some d) (h : extension.lower ∈ d.extensions) :
    MediaType.ofExtension extension ≠ MediaType.octets := by
  have hlisted : ∀ e ∈ recordExtensions.map Text.lower ++ voiceExtensions.map Text.lower,
      (MediaType.table.find? fun row => row.1.toList == e).isSome = true := by decide +kernel
  have hnamed : ∀ row ∈ MediaType.table, row.2 ≠ MediaType.octets := by decide
  have hmem : extension.lower ∈ recordExtensions.map Text.lower ++ voiceExtensions.map Text.lower := by
    cases route <;> cases hd
    · exact List.mem_append_left _ h
    · exact List.mem_append_right _ h
  obtain ⟨row, hrow⟩ := Option.isSome_iff_exists.mp (hlisted extension.lower hmem)
  rw [MediaType.ofExtension, hrow]
  exact hnamed row (List.mem_of_find?_eq_some hrow)

theorem nil_not_mem_extensions {route : Route} {d : ServedDirectory}
    (hd : s.directory? route = some d) : [] ∉ d.extensions := by
  cases route <;> cases hd
  · exact (by decide : [] ∉ recordExtensions.map Text.lower)
  · exact (by decide : [] ∉ voiceExtensions.map Text.lower)

/-- The route of a file answers with the file that its segment leads to, or with 400 if there is no
segment. -/
theorem perform_file {route : Route} {d : ServedDirectory} (hd : s.directory? route = some d)
    (now : Instant) (random : BitVec 128) (r : Request) (log : Log) :
    (∀ segment, route.segment? = some segment →
      (s.perform now random r route).run log = (s.file d segment, log)) ∧
    (route.segment? = none → ((s.perform now random r route).run log).1.status = 400) := by
  cases route <;> cases hd
  · rename_i session name
    have hrun : (s.perform now random r (.recordSegment session name)).run log =
      (s.recordSegment session name, log) := rfl
    simp only [hrun, recordSegment, withParameter, Route.segment?, Route.parameter?]
    cases Utf8.decode? (Percent.decode (Utf8.encode session)) with
    | none => simp [Response.plain]
    | some session =>
      cases Utf8.decode? (Percent.decode (Utf8.encode name)) with
      | none => simp [Response.plain]
      | some name => simp
  · rename_i name
    have hrun : (s.perform now random r (.helloVoice name)).run log =
      (s.helloVoice name, log) := rfl
    simp only [hrun, helloVoice, withParameter, Route.segment?, Route.parameter?]
    cases Utf8.decode? (Percent.decode (Utf8.encode name)) with
    | none => simp [Response.plain]
    | some name => simp

/-- An answer with a file is what the directory reads for some segment. -/
theorem exists_read_of_perform {route : Route} {d : ServedDirectory}
    (hd : s.directory? route = some d)
    (h : ((s.perform now random r route).run log).1.status = 200) :
    ∃ segment f, d.read s.files segment = .ok f ∧
      ((s.perform now random r route).run log).1 = .ofFile f.mediaType f.bytes := by
  obtain ⟨hfile, hnone⟩ := perform_file hd now random r log
  cases hsegment : route.segment? with
  | none =>
    rw [hnone hsegment] at h
    exact absurd h (by decide)
  | some segment =>
    rw [hfile segment hsegment] at h ⊢
    obtain ⟨f, hread, hanswer⟩ := exists_read_of_file h
    exact ⟨segment, f, hread, hanswer⟩

theorem isAsked_of_directory? {route : Route} {d : ServedDirectory}
    (hd : s.directory? route = some d) : route.isAsked = true := by
  cases route <;> first | rfl | cases hd

section Names

variable {keep : UInt8 → Bool} {home way : Place} {name extension : Text} {bytes : Bytes}

theorem recordSegment_of_offers (hkeep : Plain keep) (hway : way ≠ [])
    (hoffers : s.records.Offers s.files home (home ++ (way ++ [name])) extension bytes) :
    s.recordSegment (encodeText keep (['/'].intercalate way)) (encodeText keep name) =
      .ofFile (MediaType.ofExtension extension) bytes := by
  have hproper : Place.IsProper (way ++ [name]) := (Place.isProper_append.mp hoffers.proper).2
  obtain ⟨hproper, hname⟩ := Place.isProper_append.mp hproper
  have hnames : Path.names (['/'].intercalate way ++ '/' :: name) = way ++ [name] := by
    rw [Path.names, Text.split_append, Text.split_intercalate hway fun x hx => (hproper x hx).2.2,
      Text.split_of_not_mem (hname name List.mem_cons_self).2.2]
  rw [recordSegment, withParameter_encodeText hkeep, withParameter_encodeText hkeep,
    file_of_read (hoffers.read_eq hnames)]

theorem helloVoice_of_offers (hkeep : Plain keep) (hway : way ≠ [])
    (hoffers : s.voices.Offers s.files home (home ++ way) extension bytes) :
    s.helloVoice (encodeText keep (['/'].intercalate way)) =
      .ofFile (MediaType.ofExtension extension) bytes := by
  have hproper : Place.IsProper way := (Place.isProper_append.mp hoffers.proper).2
  have hnames : Path.names (['/'].intercalate way) = way :=
    Text.split_intercalate hway fun x hx => (hproper x hx).2.2
  rw [helloVoice, withParameter_encodeText hkeep, file_of_read (hoffers.read_eq hnames)]

theorem intercalate_ne_nil (hway : way ≠ []) (hproper : Place.IsProper way) :
    ['/'].intercalate way ≠ [] := by
  intro hnil
  have hsplit := Text.split_intercalate hway fun x hx => (hproper x hx).2.2
  rw [hnil, Text.split] at hsplit
  exact (hproper [] (hsplit ▸ List.mem_cons_self)).ne_nil rfl

end Names

/-- An answer 200 on a route of files is a regular file that the directory of the route offers, with
the type of its extension. And every file that is offered below the directory is the answer at the
path of its escaped names, slashes between them escaped too; a recording lies at least one directory
down. -/
theorem handle_files {s : Service} {now : Instant} {random : BitVec 128} {r : Request}
    {log after : Log} {response : Response} (hget : r.method = "GET".toList) (hcwd : s.files.cwd.IsProper)
    (hrun : (s.handle now random r).run log = (response, after)) :
    (∀ route d, Route.ofPath? r.path = some route → s.directory? route = some d →
      response.status = 200 → ∃ home place extension bytes,
        d.Offers s.files home place extension bytes ∧
        s.files.canonical place.text = .ok place ∧
        (s.files.isDirAt home = true → place ≠ home) ∧
        response = .ofFile (MediaType.ofExtension extension) bytes ∧
        MediaType.ofExtension extension ≠ MediaType.octets) ∧
    (r.isTooLong = false → ∀ keep, Plain keep → keep 0x2f = false →
      ∀ home way extension bytes, way ≠ [] →
        (∀ name, s.records.Offers s.files home (home ++ (way ++ [name])) extension bytes →
          r.path = Route.recordText (encodeText keep (['/'].intercalate way)) (encodeText keep name) →
          response = .ofFile (MediaType.ofExtension extension) bytes) ∧
        (s.voices.Offers s.files home (home ++ way) extension bytes →
          r.path = Route.voiceText (encodeText keep (['/'].intercalate way)) →
          response = .ofFile (MediaType.ofExtension extension) bytes)) := by
  constructor
  · intro route d hroute hd hstatus
    have hasked := isAsked_of_directory? hd
    cases hlong : r.isTooLong with
    | true =>
      rw [run_handle hroute, run_respond_tooLong hlong, finish_asked hget hasked] at hrun
      cases hrun
      exact absurd hstatus (by decide : 413 ≠ 200)
    | false =>
      rw [run_handle_asked hget hlong hroute hasked] at hrun
      have hfirst : ((s.perform now random r route).run log).1 = response := congrArg Prod.fst hrun
      obtain ⟨segment, f, hread, hfile⟩ := exists_read_of_perform hd (hfirst ▸ hstatus)
      obtain ⟨home, place, extension, bytes, hoffers, rfl⟩ :=
        ServedDirectory.exists_offers_of_read hread hcwd (nil_not_mem_extensions hd)
      exact ⟨home, place, extension, bytes, hoffers, hoffers.canonical, hoffers.ne_home,
        hfirst.symm.trans hfile, ofExtension_ne_octets hd hoffers.allowed⟩
  · intro hshort keep hkeep hslash home way extension bytes hway
    constructor
    · intro name hoffers hpath
      have hproper : Place.IsProper (way ++ [name]) := (Place.isProper_append.mp hoffers.proper).2
      have hname : name ≠ [] := (hproper name List.mem_concat_self).ne_nil
      have hroute := Route.ofPath?_recordText
        (Percent.slash_not_mem_encode hkeep hslash (Utf8.encode (['/'].intercalate way)))
        (Percent.slash_not_mem_encode hkeep hslash (Utf8.encode name))
        (Percent.encodeText_ne_nil hname)
      rw [run_handle_asked hget hshort (hpath ▸ hroute) rfl] at hrun
      exact (congrArg Prod.fst hrun).symm.trans (recordSegment_of_offers hkeep hway hoffers)
    · intro hoffers hpath
      have hproper : Place.IsProper way := (Place.isProper_append.mp hoffers.proper).2
      have hroute := Route.ofPath?_voiceText
        (Percent.slash_not_mem_encode hkeep hslash (Utf8.encode (['/'].intercalate way)))
        (Percent.encodeText_ne_nil (intercalate_ne_nil hway hproper))
      rw [run_handle_asked hget hshort (hpath ▸ hroute) rfl] at hrun
      exact (congrArg Prod.fst hrun).symm.trans (helloVoice_of_offers hkeep hway hoffers)

def recordings : Node := .dir [
  ("a day".toList, .dir [("1.TS".toList, .file [0x47, 0x40] none)] none),
  ("latest.ts".toList, .link "a day/1.TS".toList)] none

def archive : FileSystem where
  entries := [("record".toList, recordings), ("secret.ts".toList, .file [0x00] none)]
  cwd := []

def recorder : Service where
  settings := { recordDir := "/record".toList }
  environment _ := none
  files := archive
  network := offline

def playback : Request where
  method := "GET".toList
  target := "/terraform/v1/hooks/record/hls/a%20day/1%2ETS?t=0".toList
  headers := []
  body := []

theorem offers_archive : recorder.records.Offers recorder.files ["record".toList]
    (["record".toList] ++ (["a day".toList] ++ ["1.TS".toList])) "TS".toList [0x47, 0x40] where
  base := by
    have hbase : recorder.records.base = Place.text ["record".toList] := rfl
    have hproper : Place.IsProper ["record".toList] := by
      unfold Place.IsProper Path.IsProper
      decide
    rw [hbase]
    have hdir : archive.at? ["record".toList] = some recordings := rfl
    have hlink : ∀ target, recordings ≠ .link target := by
      unfold recordings
      nofun
    exact FileSystem.canonical_text hproper hlink hdir
  below := List.prefix_append _ _
  proper := by unfold Place.IsProper Path.IsProper; decide
  file := by rfl
  named := rfl
  allowed := by decide

theorem handle_files_of_archive :
    playback.method = "GET".toList ∧ recorder.files.cwd.IsProper ∧
      ((recorder.handle ⟨0, 0⟩ 0 playback).run []).1 =
        .ofFile (MediaType.ofExtension "TS".toList) [0x47, 0x40] := by
  have hcwd : recorder.files.cwd.IsProper := List.forall_mem_nil _
  have hshort : playback.isTooLong = false := rfl
  have hpath : playback.path = Route.recordText
      (encodeText Percent.isAlphanum (['/'].intercalate ["a day".toList]))
      (encodeText Percent.isAlphanum "1.TS".toList) := by decide +kernel
  have hrun : (recorder.handle ⟨0, 0⟩ 0 playback).run [] =
    (((recorder.handle ⟨0, 0⟩ 0 playback).run []).1,
      ((recorder.handle ⟨0, 0⟩ 0 playback).run []).2) := rfl
  obtain ⟨-, honward⟩ := handle_files rfl hcwd hrun
  have hway : ["a day".toList] ≠ [] := List.cons_ne_nil _ _
  obtain ⟨hrecord, -⟩ := honward hshort _ Percent.plain_isAlphanum rfl _ _ _ _ hway
  exact ⟨rfl, hcwd, hrecord _ offers_archive hpath⟩

end Service
end Http
end MediaPerimeter
