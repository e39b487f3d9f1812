import MediaPerimeter.Proofs.Text.Cut
import MediaPerimeter.Stream.Progress

/-!
# Status lines

A status line is written in pieces with blanks between them: fields, fields with blanks in front of
their value, and words that belong to no field. Whatever the pieces are and however they are spaced,
what is read from the line are the last values of the two fields that are looked for.
-/
namespace MediaPerimeter

namespace Text

variable {before w rest : Text}

def IsWord (w : Text) : Prop := w ≠ [] ∧ ∀ c ∈ w, isBlank c = false

def IsGap (gap : Text) : Prop := gap ≠ [] ∧ ∀ c ∈ gap, isBlank c = true

instance (w : Text) : Decidable (IsWord w) :=
  decidable_of_iff (w ≠ [] ∧ w.all (!isBlank ·) = true) (by simp [IsWord])

instance (gap : Text) : Decidable (IsGap gap) :=
  decidable_of_iff (gap ≠ [] ∧ gap.all isBlank = true) (by simp [IsGap])

theorem IsGap.startsAt {gap : Text} (h : IsGap gap) (t : Text) : StartsAt isBlank (gap ++ t) := by
  obtain ⟨c, gap, rfl⟩ := List.exists_cons_of_ne_nil h.1
  intro x hx
  obtain rfl := Option.some.inj hx
  exact h.2 c List.mem_cons_self

theorem words_blanks (h : ∀ c ∈ before, isBlank c = true) (t : Text) :
    (before ++ t).words = t.words := by
  induction before with
  | nil => rfl
  | cons c before ih =>
    obtain ⟨hc, hbefore⟩ := List.forall_mem_cons.mp h
    rw [← ih hbefore, words, List.cons_append, wordsFrom, if_pos hc]
    rfl

theorem wordsFrom_append (h : ∀ c ∈ w, isBlank c = false) (read rest : Text) :
    wordsFrom read (w ++ rest) = wordsFrom (w.reverse ++ read) rest := by
  induction w generalizing read with
  | nil => rfl
  | cons c w ih =>
    obtain ⟨hc, hw⟩ := List.forall_mem_cons.mp h
    rw [List.cons_append, wordsFrom, if_neg (by simp [hc]), ih hw]
    simp

/-- A word ends at a blank or with the text. -/
theorem wordsFrom_startsAt {read : Text} (hread : read ≠ []) (h : StartsAt isBlank rest) :
    wordsFrom read rest = read.reverse :: rest.words := by
  have hsome : ¬ read.isEmpty = true := by simpa using hread
  cases rest with
  | nil => simp [wordsFrom, words, hread]
  | cons c rest =>
    have hc : isBlank c = true := h c rfl
    rw [wordsFrom, if_pos hc, if_neg hsome, words, wordsFrom, if_pos hc]
    rfl

theorem words_append (hw : IsWord w) (h : StartsAt isBlank rest) :
    (w ++ rest).words = w :: rest.words := by
  have hread : w.reverse ++ [] ≠ [] := by simpa using hw.1
  rw [words, wordsFrom_append hw.2, wordsFrom_startsAt hread h, List.append_nil,
    List.reverse_reverse]

end Text

open Text (IsWord IsGap StartsAt)

namespace Progress

def IsKey (key : Text) : Prop := ∀ c ∈ key, isBlank c = false ∧ c ≠ '='

instance (key : Text) : Decidable (IsKey key) :=
  decidable_of_iff (key.all (fun c => !isBlank c && c != '=') = true) (by simp [IsKey])

inductive Piece where
  | field (key value : Text)
  | padded (key gap value : Text)
  | stray (word : Text)

namespace Piece

def text : Piece → Text
  | field key value => key ++ '=' :: value
  | padded key gap value => key ++ '=' :: (gap ++ value)
  | stray word => word

def field? : Piece → Option (Text × Text)
  | field key value => some (key, value)
  | padded key _ value => some (key, value)
  | stray _ => none

/-- A value that holds `=` is not padded, and a word that holds it is a field. -/
def WellFormed : Piece → Prop
  | field key value => IsKey key ∧ IsWord value
  | padded key gap value => IsKey key ∧ IsGap gap ∧ IsWord value ∧ '=' ∉ value
  | stray word => IsWord word ∧ '=' ∉ word

instance (p : Piece) : Decidable p.WellFormed :=
  match p with
  | field key value => inferInstanceAs (Decidable (IsKey key ∧ IsWord value))
  | padded key gap value =>
    inferInstanceAs (Decidable (IsKey key ∧ IsGap gap ∧ IsWord value ∧ '=' ∉ value))
  | stray word => inferInstanceAs (Decidable (IsWord word ∧ '=' ∉ word))

end Piece

/-- A line with the pieces in this order. In front of each piece but the first there is a blank;
more blanks may stand anywhere between, before and behind the pieces. -/
inductive IsLine : List Piece → Text → Prop
  | blank {t : Text} (h : ∀ c ∈ t, isBlank c = true) : IsLine [] t
  | piece {p : Piece} {ps : List Piece} {before rest : Text}
      (hbefore : ∀ c ∈ before, isBlank c = true) (hp : p.WellFormed)
      (hparted : StartsAt isBlank rest) (hrest : IsLine ps rest) :
      IsLine (p :: ps) (before ++ (p.text ++ rest))

variable {key value : Text} {row : List (Text × Text)} {ps : List Piece} {line : Text}

def Piece.words : Piece → List Text
  | field key value => [key ++ '=' :: value]
  | padded key _ value => [key ++ ['='], value]
  | stray word => [word]

theorem isWord_field (hkey : IsKey key) {value : Text} (hvalue : ∀ c ∈ value, isBlank c = false) :
    IsWord (key ++ '=' :: value) := by
  refine ⟨List.append_ne_nil_of_right_ne_nil _ nofun, ?_⟩
  intro c hc
  rcases List.mem_append.mp hc with hc | hc
  · exact (hkey c hc).1
  · rcases List.mem_cons.mp hc with rfl | hc
    · decide
    · exact hvalue c hc

theorem IsKey.not_mem (h : IsKey key) : '=' ∉ key := by
  intro hmem
  exact (h '=' hmem).2 rfl

theorem Piece.WellFormed.words_append {p : Piece} (h : p.WellFormed) {rest : Text}
    (hrest : StartsAt isBlank rest) : (p.text ++ rest).words = p.words ++ rest.words := by
  cases p with
  | field key value => exact Text.words_append (isWord_field h.1 h.2.2) hrest
  | padded key gap value =>
    obtain ⟨hkey, hgap, hvalue, -⟩ := h
    have htext : (Piece.padded key gap value).text ++ rest =
        (key ++ ['=']) ++ (gap ++ (value ++ rest)) := by simp [Piece.text]
    rw [htext, Text.words_append (isWord_field hkey (List.forall_mem_nil _)) (hgap.startsAt _),
      Text.words_blanks hgap.2, Text.words_append hvalue hrest]
    rfl
  | stray word => exact Text.words_append h.1 hrest

/-- A piece takes its own words and none of those behind it. -/
theorem Piece.WellFormed.fields_append {p : Piece} (h : p.WellFormed) (later : List Text) :
    fields (p.words ++ later) = p.field?.toList ++ fields later := by
  cases p with
  | field key value =>
    obtain ⟨hkey, hvalue⟩ := h
    obtain ⟨c, value, rfl⟩ := List.exists_cons_of_ne_nil hvalue.1
    simp [Piece.words, Piece.field?, fields, Text.cut_append hkey.not_mem]
  | padded key gap value =>
    obtain ⟨hkey, -, -, hplain⟩ := h
    simp [Piece.words, Piece.field?, fields, Text.cut_append hkey.not_mem, hplain]
  | stray word =>
    simp [Piece.words, Piece.field?, fields, Text.cut_eq_none_iff.mpr h.2]

theorem fields_words (h : IsLine ps line) : fields line.words = ps.filterMap Piece.field? := by
  induction h with
  | blank h =>
    have hnone := Text.words_blanks h []
    rw [List.append_nil] at hnone
    rw [hnone]
    rfl
  | @piece p ps before rest hbefore hp hparted _ ih =>
    rw [Text.words_blanks hbefore, hp.words_append hparted, hp.fields_append, ih]
    cases hfield : p.field? <;> simp [hfield]

def IsLast (key value : Text) (row : List (Text × Text)) : Prop :=
  ∃ before after, row = before ++ (key, value) :: after ∧ ∀ f ∈ after, f.1 ≠ key

theorem lastValue_eq (h : ∀ f ∈ row, f.2 ≠ []) (key : Text) :
    lastValue key row = ((row.filter (·.1 == key)).map Prod.snd).getLast? := by
  have hfilter : row.filter (fun f => f.1 == key && f.2 != []) = row.filter (·.1 == key) :=
    List.filter_congr fun f hf => by simp [h f hf]
  rw [lastValue, hfilter]

theorem lastValue_eq_some_iff (h : ∀ f ∈ row, f.2 ≠ []) :
    lastValue key row = some value ↔ IsLast key value row := by
  rw [lastValue_eq h]
  constructor
  · intro hlast
    obtain ⟨front, hfront⟩ := List.getLast?_eq_some_iff.mp hlast
    obtain ⟨fs, gs, hfilter, -, hgs⟩ := List.map_eq_append_iff.mp hfront
    obtain ⟨⟨k, v⟩, rfl, rfl⟩ := List.map_eq_singleton_iff.mp hgs
    obtain ⟨before, rest, rfl, -, hrest⟩ := List.filter_eq_append_iff.mp hfilter
    obtain ⟨others, after, rfl, -, hk, hafter⟩ := List.filter_eq_cons_iff.mp hrest
    obtain rfl : k = key := beq_iff_eq.mp hk
    refine ⟨before ++ others, after, by simp, ?_⟩
    intro f hf
    simpa using List.filter_eq_nil_iff.mp hafter f hf
  · rintro ⟨before, after, rfl, hafter⟩
    have hnone : after.filter (·.1 == key) = [] := by simpa [List.filter_eq_nil_iff] using hafter
    simp [hnone]

theorem lastValue_eq_none_iff (h : ∀ f ∈ row, f.2 ≠ []) :
    lastValue key row = none ↔ ∀ f ∈ row, f.1 ≠ key := by
  rw [lastValue_eq h]
  simp

theorem Piece.WellFormed.value_ne_nil {p : Piece} (h : p.WellFormed) {f : Text × Text}
    (hf : p.field? = some f) : f.2 ≠ [] := by
  cases p with
  | field key value =>
    cases hf
    exact h.2.1
  | padded key gap value =>
    cases hf
    exact h.2.2.1.1
  | stray word => cases hf

theorem value_ne_nil (h : IsLine ps line) : ∀ f ∈ ps.filterMap Piece.field?, f.2 ≠ [] := by
  intro f hf
  obtain ⟨p, hp, hfield⟩ := List.mem_filterMap.mp hf
  clear hf
  induction h with
  | blank => cases hp
  | piece _ hwell _ _ ih =>
    rcases List.mem_cons.mp hp with rfl | hp
    · exact hwell.value_ne_nil hfield
    · exact ih hp

/-- What is read from a line depends on its fields alone, and among the fields with one key on the
last of them. -/
theorem ofLine_iff (h : IsLine ps line) :
    (∀ p, ofLine line = .ok p ↔ IsLast "time".toList p.time (ps.filterMap Piece.field?) ∧
      IsLast "speed".toList p.speed (ps.filterMap Piece.field?)) ∧
    (ofLine line = .error ⟨.time⟩ ↔ ∀ f ∈ ps.filterMap Piece.field?, f.1 ≠ "time".toList) ∧
    (ofLine line = .error ⟨.speed⟩ ↔ (∃ f ∈ ps.filterMap Piece.field?, f.1 = "time".toList) ∧
      ∀ f ∈ ps.filterMap Piece.field?, f.1 ≠ "speed".toList) := by
  have hvalues := value_ne_nil h
  have hsome (key : Text) : (∃ f ∈ ps.filterMap Piece.field?, f.1 = key) ↔
      lastValue key (ps.filterMap Piece.field?) ≠ none := by
    rw [Ne, lastValue_eq_none_iff hvalues]
    simp only [not_forall, not_not, exists_prop]
  simp only [hsome, ← lastValue_eq_some_iff hvalues, ← lastValue_eq_none_iff hvalues]
  unfold ofLine
  rw [fields_words h]
  dsimp only
  generalize lastValue "time".toList (ps.filterMap Piece.field?) = time
  generalize lastValue "speed".toList (ps.filterMap Piece.field?) = speed
  cases time with
  | none => simp
  | some time =>
    cases speed with
    | none => simp
    | some speed =>
      refine ⟨fun p => ?_, by simp, by simp⟩
      cases p
      simp

/-- Padding, a word that belongs to no field, a value that holds `=` and a key that comes twice. -/
theorem ofLine_iff_of_padded :
    ofLine "  frame=\t12 done time=a=b time=00:02 speed= 1.2x\u3000".toList =
      .ok ⟨"00:02".toList, "1.2x".toList⟩ := by
  have hspeed : IsLine [.padded "speed".toList [' '] "1.2x".toList]
      ([' '] ++ ("speed= 1.2x".toList ++ ['\u3000'])) :=
    .piece (p := .padded _ _ _) (List.all_eq_true.mp rfl) (by decide) (by decide) <|
      .blank (List.all_eq_true.mp rfl)
  have htime : IsLine [.field "time".toList "a=b".toList, .field "time".toList "00:02".toList,
      .padded "speed".toList [' '] "1.2x".toList]
      ([' '] ++ ("time=a=b".toList ++ ([' '] ++ ("time=00:02".toList ++
        ([' '] ++ ("speed= 1.2x".toList ++ ['\u3000'])))))) :=
    .piece (p := .field _ _) (List.all_eq_true.mp rfl) (by decide) (by decide) <|
      .piece (p := .field _ _) (List.all_eq_true.mp rfl) (by decide) (by decide) hspeed
  have hline : IsLine [.padded "frame".toList ['\t'] "12".toList, .stray "done".toList,
      .field "time".toList "a=b".toList, .field "time".toList "00:02".toList,
      .padded "speed".toList [' '] "1.2x".toList]
      ([' ', ' '] ++ ("frame=\t12".toList ++ ([' '] ++ ("done".toList ++
        ([' '] ++ ("time=a=b".toList ++ ([' '] ++ ("time=00:02".toList ++
          ([' '] ++ ("speed= 1.2x".toList ++ ['\u3000'])))))))))) :=
    .piece (p := .padded _ _ _) (List.all_eq_true.mp rfl) (by decide) (by decide) <|
      .piece (p := .stray _) (List.all_eq_true.mp rfl) (by decide) (by decide) htime
  refine ((ofLine_iff hline).1 _).mpr ⟨?_, ?_⟩
  · exact ⟨[("frame".toList, "12".toList), ("time".toList, "a=b".toList)],
      [("speed".toList, "1.2x".toList)], rfl, List.forall_mem_singleton.mpr (by decide)⟩
  · exact ⟨[("frame".toList, "12".toList), ("time".toList, "a=b".toList),
      ("time".toList, "00:02".toList)], [], rfl, List.forall_mem_nil _⟩

end Progress
end MediaPerimeter
