import Mathlib.Logic.Relation
import MediaPerimeter.Proofs.Json.Numbers

/-!
# Passing over values

A value is passed over with a stack of the lists and objects that are open. One step is a relation
between states, and every step takes a byte or is followed by one that does; so the steps that are
allowed suffice, and the run ends exactly where the value does.
-/
namespace MediaPerimeter.Json

open Read Outcome

theorem word_eq_ok_iff {w t rest : Bytes} : word w t = .ok rest ↔ t = w ++ rest := by
  induction w generalizing t with
  | nil =>
    rw [word, Except.ok.injEq, List.nil_append]
  | cons a w ih =>
    cases t with
    | nil =>
      rw [word]
      constructor
      · nofun
      · nofun
    | cons b t =>
      rw [word, List.cons_append, List.cons.injEq]
      split
      · rename_i hab
        rw [ih]
        exact ⟨fun h => ⟨hab, h⟩, fun h => h.2⟩
      · rename_i hab
        constructor
        · nofun
        · exact fun h => absurd h.1 hab

theorem ne_of_numberStart {b : UInt8} (h : b = 0x2d ∨ Number.isDigit b = true) {c : UInt8}
    (hc : c ≠ 0x2d ∧ Number.isDigit c = false) : b ≠ c := by
  rintro rfl
  rcases h with h | h
  · exact hc.1 h
  · rw [hc.2] at h
    cases h

def StartsScalar (b : UInt8) : Prop :=
  b = 0x6e ∨ b = 0x74 ∨ b = 0x66 ∨ b = 0x22 ∨ b = 0x2d ∨ Number.isDigit b = true

theorem StartsScalar.number {b : UInt8} (h : b = 0x2d ∨ Number.isDigit b = true) :
    StartsScalar b := .inr (.inr (.inr (.inr h)))

theorem StartsScalar.plain {b : UInt8} (h : StartsScalar b) :
    Read.isBlank b = false ∧ b ≠ 0x5d ∧ ∀ frame, b ≠ opening frame := by
  rcases h with rfl | rfl | rfl | rfl | rfl | hdigit
  case inr.inr.inr.inr.inr =>
    have hne : ∀ c, c ≠ 0x2d ∧ Number.isDigit c = false → b ≠ c :=
      fun _ hc => ne_of_numberStart (.inr hdigit) hc
    refine ⟨?_, hne _ (by decide), fun frame => by cases frame <;> exact hne _ (by decide)⟩
    simp [Read.isBlank, hne 0x20 (by decide), hne 0x09 (by decide), hne 0x0a (by decide),
      hne 0x0d (by decide)]
  all_goals exact ⟨rfl, by decide, fun frame => by cases frame <;> decide⟩

theorem scalar_of_skipScalar {b : UInt8} {t rest : Bytes} (h : skipScalar b t = .ok rest) :
    StartsScalar b ∧ Scalar (b :: t) rest := by
  have hword : ∀ w, w ∈ words → ∀ tail, Utf8.encode w.toList = b :: tail → word tail t = .ok rest →
      Scalar (b :: t) rest := by
    intro w hw tail hbytes htail
    rw [word_eq_ok_iff.mp htail, ← List.cons_append, ← hbytes]
    exact .word hw
  unfold skipScalar at h
  split at h
  · rename_i hb
    subst hb
    exact ⟨.inl rfl, hword "null" (by decide) _ (by decide) h⟩
  split at h
  · rename_i hb
    subst hb
    exact ⟨.inr (.inl rfl), hword "true" (by decide) _ (by decide) h⟩
  split at h
  · rename_i hb
    subst hb
    exact ⟨.inr (.inr (.inl rfl)), hword "false" (by decide) _ (by decide) h⟩
  split at h
  · rename_i hb
    subst hb
    obtain ⟨⟨bs, u⟩, hbs, h⟩ := map_eq_ok_iff.mp h
    cases h
    exact ⟨.inr (.inr (.inr (.inl rfl))), .string (skims_of_stringBytes hbs)⟩
  split at h
  · rename_i hb
    obtain ⟨v, hnumeral, ht⟩ := Number.of_skip h
    exact ⟨.number hb, ht ▸ .number hnumeral⟩
  · cases h

theorem Digits.head {ds : Bytes} (h : Digits ds) :
    ∃ d more, ds = d :: more ∧ Number.isDigit d = true := by
  cases ds with
  | nil => exact absurd rfl h.1
  | cons d more => exact ⟨d, more, rfl, h.2 d List.mem_cons_self⟩

theorem Numeral.head {v : Bytes} (h : Numeral v) :
    ∃ b more, v = b :: more ∧ (b = 0x2d ∨ Number.isDigit b = true) := by
  cases h with
  | parts hsign hwhole _ _ =>
    rcases hsign with rfl | rfl
    · obtain ⟨d, more, rfl, hd⟩ := hwhole.1.head
      exact ⟨d, _, rfl, .inr hd⟩
    · exact ⟨0x2d, _, rfl, .inl rfl⟩

theorem skipScalar_word {w : String} (hw : w ∈ words) (rest : Bytes) :
    ∃ b tail, Utf8.encode w.toList = b :: tail ∧ StartsScalar b ∧
      skipScalar b (tail ++ rest) = .ok rest := by
  simp only [words, List.mem_cons, List.not_mem_nil, or_false] at hw
  rcases hw with rfl | rfl | rfl
  · exact ⟨0x6e, _, rfl, .inl rfl, word_eq_ok_iff.mpr rfl⟩
  · exact ⟨0x74, _, rfl, .inr (.inl rfl), word_eq_ok_iff.mpr rfl⟩
  · exact ⟨0x66, _, rfl, .inr (.inr (.inl rfl)), word_eq_ok_iff.mpr rfl⟩

theorem skipScalar_number {b : UInt8} (h : b = 0x2d ∨ Number.isDigit b = true) (t : Bytes) :
    skipScalar b t = Number.skip (b :: t) := by
  have hne : ∀ c, c ≠ 0x2d ∧ Number.isDigit c = false → b ≠ c := fun _ => ne_of_numberStart h
  rw [skipScalar, if_neg (hne _ (by decide)), if_neg (hne _ (by decide)),
    if_neg (hne _ (by decide)), if_neg (hne _ (by decide)), if_pos h]

theorem Scalar.starts {t rest : Bytes} (h : Scalar t rest) :
    ∃ b u, t = b :: u ∧ StartsScalar b := by
  cases h with
  | word hw =>
    obtain ⟨b, tail, hbytes, hb, -⟩ := skipScalar_word hw rest
    exact ⟨b, tail ++ rest, congrArg (· ++ rest) hbytes, hb⟩
  | string body => exact ⟨0x22, _, rfl, .inr (.inr (.inr (.inl rfl)))⟩
  | number numeral =>
    obtain ⟨b, more, rfl, hb⟩ := numeral.head
    exact ⟨b, more ++ rest, rfl, .number hb⟩

theorem Scalar.skipScalar_eq {t rest : Bytes} (h : Scalar t rest) (hrest : EndsNumber rest) :
    ∃ b u, t = b :: u ∧ StartsScalar b ∧ skipScalar b u = .ok rest := by
  cases h with
  | word hw =>
    obtain ⟨b, tail, hbytes, hb, hskip⟩ := skipScalar_word hw rest
    exact ⟨b, tail ++ rest, congrArg (· ++ rest) hbytes, hb, hskip⟩
  | string body =>
    obtain ⟨bs, hbs⟩ := body.exists_stringBytes
    refine ⟨0x22, _, rfl, .inr (.inr (.inr (.inl rfl))), ?_⟩
    exact map_eq_ok_iff.mpr ⟨_, hbs, rfl⟩
  | number numeral =>
    obtain ⟨b, more, rfl, hb⟩ := numeral.head
    refine ⟨b, more ++ rest, rfl, .number hb, ?_⟩
    rw [skipScalar_number hb]
    exact Number.skip_numeral numeral hrest

theorem Hex4.length_eq {t rest : Bytes} {n : Nat} (h : Hex4 t n rest) :
    t.length = rest.length + 4 := by
  cases h
  rfl

theorem Skims.length_lt {t rest : Bytes} (h : Skims t rest) : rest.length < t.length := by
  induction h with
  | close => exact Nat.lt_succ_self _
  | plain _ _ _ _ ih => exact Nat.lt_succ_of_lt ih
  | short _ _ ih => exact Nat.lt_succ_of_lt (Nat.lt_succ_of_lt ih)
  | number digits _ ih =>
    have hlength := digits.length_eq
    simp only [List.length_cons]
    omega

theorem Scalar.length_lt {t rest : Bytes} (h : Scalar t rest) : rest.length < t.length := by
  cases h with
  | word hw =>
    obtain ⟨b, tail, hbytes, -⟩ := skipScalar_word hw rest
    rw [hbytes, List.cons_append, List.length_cons, List.length_append]
    omega
  | string body => exact Nat.lt_succ_of_lt body.length_lt
  | number numeral =>
    obtain ⟨b, more, rfl, -⟩ := numeral.head
    rw [List.cons_append, List.length_cons, List.length_append]
    omega

theorem colon_eq_ok_iff {t rest : Bytes} : colon t = .ok rest ↔ Blanks t (0x3a :: rest) := by
  constructor
  · intro h
    unfold colon at h
    split at h
    · cases h
    · rename_i u hskip
      cases h
      exact blanks_of_skipBlanks hskip
    · cases h
  · intro h
    unfold colon
    rw [h.skipBlanks_eq_cons rfl]
    rfl

theorem key_of_skipKey {frame : Frame} {t rest : Bytes} (h : frame.skipKey t = .ok rest) :
    Key frame t rest := by
  unfold Frame.skipKey at h
  split at h
  · cases h
    exact .item
  · split at h
    · cases h
    · rename_i u hskip
      split at h
      · cases h
      · rename_i bs v hbs
        exact .name (blanks_of_skipBlanks hskip) (skims_of_stringBytes hbs) (colon_eq_ok_iff.mp h)
    · cases h

theorem Key.skipKey_eq {frame : Frame} {t rest : Bytes} (h : Key frame t rest) :
    frame.skipKey t = .ok rest := by
  cases h with
  | item => rfl
  | name mark name colon =>
    obtain ⟨bs, hbs⟩ := name.exists_stringBytes
    unfold Frame.skipKey
    dsimp only
    rw [mark.skipBlanks_eq_cons rfl]
    simp only [hbs, colon_eq_ok_iff.mpr colon]

theorem Key.length_le {frame : Frame} {t rest : Bytes} (h : Key frame t rest) :
    rest.length ≤ t.length := by
  cases h with
  | item => exact Nat.le_refl _
  | name mark name colon =>
    have hmark := mark.length_le
    have hname := name.length_lt
    have hcolon := colon.length_le
    simp only [List.length_cons] at hmark hcolon
    omega

structure Passage where
  frames : List Frame
  awaited : Awaited
  left : Bytes

namespace Passage

def run (steps : Nat) (s : Passage) : Except Fault Bytes :=
  skipFrames steps s.frames s.awaited s.left

def Stops (s : Passage) : Prop := s.frames = [] ∧ s.awaited ≠ .value

/-- The steps that are sure to suffice. -/
def need (s : Passage) : Nat := 2 * s.left.length + if s.awaited = .value then 1 else 2

end Passage

inductive Passes : Passage → Passage → Prop
  | scalar {frames t b u v} (blanks : Blanks t (b :: u)) (starts : StartsScalar b)
      (skipped : skipScalar b u = .ok v) : Passes ⟨frames, .value, t⟩ ⟨frames, .nextOrEnd, v⟩
  | opens {frames frame t u} (blanks : Blanks t (opening frame :: u)) :
      Passes ⟨frames, .value, t⟩ ⟨frame :: frames, .firstOrEnd, u⟩
  | closes {frame outer awaited t u} (hawaited : awaited ≠ .value)
      (blanks : Blanks t (frame.close :: u)) :
      Passes ⟨frame :: outer, awaited, t⟩ ⟨outer, .nextOrEnd, u⟩
  | first {frame outer t b u v} (blanks : Blanks t (b :: u)) (hblank : Read.isBlank b = false)
      (hclose : b ≠ frame.close) (key : Key frame (b :: u) v) :
      Passes ⟨frame :: outer, .firstOrEnd, t⟩ ⟨frame :: outer, .value, v⟩
  | next {frame outer t u v} (comma : Blanks t (0x2c :: u)) (key : Key frame u v) :
      Passes ⟨frame :: outer, .nextOrEnd, t⟩ ⟨frame :: outer, .value, v⟩

theorem isBlank_opening (frame : Frame) : Read.isBlank (opening frame) = false := by
  cases frame <;> rfl

theorem isBlank_close (frame : Frame) : Read.isBlank frame.close = false := by
  cases frame <;> rfl

theorem comma_ne_close (frame : Frame) : (0x2c : UInt8) ≠ frame.close := by
  cases frame <;> decide

theorem Passes.run_succ {s s' : Passage} (h : Passes s s') (n : Nat) :
    s.run (n + 1) = s'.run n := by
  unfold Passage.run
  cases h with
  | @scalar frames t b u v blanks starts skipped =>
    obtain ⟨hblank, -, hopening⟩ := starts.plain
    dsimp only
    rw [skipFrames, blanks.skipBlanks_eq_cons hblank]
    split
    · rename_i heq
      cases heq
    · rename_i heq
      cases heq
      exact absurd rfl (hopening .list)
    · rename_i heq
      cases heq
      exact absurd rfl (hopening .object)
    · rename_i heq
      cases heq
      rw [skipped]
  | @opens frames frame t u blanks =>
    dsimp only
    rw [skipFrames, blanks.skipBlanks_eq_cons (isBlank_opening frame)]
    cases frame <;> rfl
  | closes hawaited blanks =>
    dsimp only
    rw [skipFrames.eq_4 _ _ _ _ _ hawaited, blanks.skipBlanks_eq_cons (isBlank_close _)]
    dsimp only
    rw [if_pos rfl]
  | first blanks hblank hclose key =>
    dsimp only
    have hawaited : Awaited.firstOrEnd ≠ .value := nofun
    rw [skipFrames.eq_4 _ _ _ _ _ hawaited, blanks.skipBlanks_eq_cons hblank]
    dsimp only
    rw [if_neg hclose, if_pos (.inl rfl), if_pos rfl, key.skipKey_eq]
  | next comma key =>
    dsimp only
    have hawaited : Awaited.nextOrEnd ≠ .value := nofun
    rw [skipFrames.eq_4 _ _ _ _ _ hawaited, comma.skipBlanks_eq_cons rfl]
    dsimp only
    rw [if_neg (comma_ne_close _), if_pos (.inr rfl), if_neg nofun, key.skipKey_eq]

theorem passes_of_value {frames : List Frame} {t rest : Bytes} {n : Nat}
    (h : skipFrames (n + 1) frames .value t = .ok rest) :
    ∃ s', Passes ⟨frames, .value, t⟩ s' ∧ s'.run n = .ok rest := by
  rw [skipFrames] at h
  split at h
  · cases h
  · rename_i u hskip
    exact ⟨_, @Passes.opens frames .list t u (blanks_of_skipBlanks hskip), h⟩
  · rename_i u hskip
    exact ⟨_, @Passes.opens frames .object t u (blanks_of_skipBlanks hskip), h⟩
  · rename_i b u _ _ hskip
    split at h
    · cases h
    · rename_i v hscalar
      have hstarts := (scalar_of_skipScalar hscalar).1
      exact ⟨_, .scalar (blanks_of_skipBlanks hskip) hstarts hscalar, h⟩

theorem passes_of_frame {frame : Frame} {outer : List Frame} {awaited : Awaited} {t rest : Bytes}
    {n : Nat} (hawaited : awaited ≠ .value)
    (h : skipFrames (n + 1) (frame :: outer) awaited t = .ok rest) :
    ∃ s', Passes ⟨frame :: outer, awaited, t⟩ s' ∧ s'.run n = .ok rest := by
  rw [skipFrames.eq_4 _ _ _ _ _ hawaited] at h
  split at h
  · cases h
  rename_i b u hskip
  have hblanks := blanks_of_skipBlanks hskip
  split at h
  · rename_i hclose
    subst hclose
    exact ⟨_, .closes hawaited hblanks, h⟩
  rename_i hclose
  split at h
  case isFalse => cases h
  rename_i hnext
  split at h
  · cases h
  rename_i v hkey
  by_cases hfirst : awaited = .firstOrEnd
  · subst hfirst
    rw [if_pos rfl] at hkey
    exact ⟨_, .first hblanks (isBlank_of_skipBlanks hskip) hclose (key_of_skipKey hkey), h⟩
  · have hcomma : b = 0x2c := hnext.resolve_left hfirst
    subst hcomma
    rw [if_neg hfirst] at hkey
    cases awaited with
    | value => exact absurd rfl hawaited
    | firstOrEnd => exact absurd rfl hfirst
    | nextOrEnd => exact ⟨_, .next hblanks (key_of_skipKey hkey), h⟩

/-- A run that goes on takes a step. -/
theorem stops_or_passes {s : Passage} {n : Nat} {rest : Bytes} (h : s.run (n + 1) = .ok rest) :
    (s.Stops ∧ s.left = rest) ∨ ∃ s', Passes s s' ∧ s'.run n = .ok rest := by
  obtain ⟨frames, awaited, t⟩ := s
  by_cases hawaited : awaited = .value
  · subst hawaited
    exact .inr (passes_of_value h)
  cases frames with
  | nil =>
    have hend : skipFrames (n + 1) [] awaited t = .ok t :=
      skipFrames.eq_3 _ _ _ nofun fun _ _ => hawaited
    cases hend.symm.trans h
    exact .inl ⟨⟨rfl, hawaited⟩, rfl⟩
  | cons frame outer => exact .inr (passes_of_frame hawaited h)

theorem Passes.need_lt {s s' : Passage} (h : Passes s s') : s'.need < s.need := by
  unfold Passage.need
  cases h with
  | scalar blanks _ skipped =>
    have hblanks := blanks.length_le
    have hscalar := (scalar_of_skipScalar skipped).2.length_lt
    dsimp only
    rw [if_neg nofun, if_pos rfl]
    omega
  | opens blanks =>
    have hblanks := blanks.length_le
    rw [List.length_cons] at hblanks
    dsimp only
    rw [if_neg nofun, if_pos rfl]
    omega
  | closes hawaited blanks =>
    have hblanks := blanks.length_le
    rw [List.length_cons] at hblanks
    dsimp only
    rw [if_neg nofun, if_neg hawaited]
    omega
  | first blanks _ _ key =>
    have hblanks := blanks.length_le
    have hkey := key.length_le
    dsimp only
    rw [if_pos rfl, if_neg nofun]
    omega
  | next comma key =>
    have hcomma := comma.length_le
    have hkey := key.length_le
    rw [List.length_cons] at hcomma
    dsimp only
    rw [if_pos rfl, if_neg nofun]
    omega

open Relation (ReflTransGen)

theorem of_run {s : Passage} {n : Nat} {rest : Bytes} (hn : s.need ≤ n)
    (h : s.run n = .ok rest) : ∃ s', ReflTransGen Passes s s' ∧ s'.Stops ∧ s'.left = rest := by
  induction n generalizing s with
  | zero =>
    unfold Passage.need at hn
    split at hn <;> omega
  | succ n ih =>
    rcases stops_or_passes h with ⟨hstops, hleft⟩ | ⟨s', hpasses, hrun⟩
    · exact ⟨s, .refl, hstops, hleft⟩
    · obtain ⟨s'', hmore, hstops, hleft⟩ := ih (by have := hpasses.need_lt; omega) hrun
      exact ⟨s'', .head hpasses hmore, hstops, hleft⟩

theorem run_of_stops {s : Passage} (h : s.Stops) (n : Nat) : s.run n = .ok s.left := by
  obtain ⟨frames, awaited, t⟩ := s
  obtain ⟨rfl, hawaited⟩ := h
  cases n with
  | zero => rfl
  | succ n => exact skipFrames.eq_3 _ _ _ nofun fun _ _ => hawaited

theorem run_eq {s s' : Passage} {n : Nat} (h : ReflTransGen Passes s s') (hstops : s'.Stops)
    (hn : s.need ≤ n) : s.run n = .ok s'.left := by
  induction h using ReflTransGen.head_induction_on generalizing n with
  | refl => exact run_of_stops hstops n
  | head hpasses _ ih =>
    have hlt := hpasses.need_lt
    obtain ⟨m, rfl⟩ : ∃ m, n = m + 1 := ⟨n - 1, by omega⟩
    rw [hpasses.run_succ]
    exact ih (by omega)

/-- The rest of each open list and object, the innermost first. -/
inductive Closes : List Frame → Bytes → Bytes → Prop
  | nil {t} : Closes [] t t
  | cons {frame outer t u rest} (more : More frame t u) (closes : Closes outer u rest) :
      Closes (frame :: outer) t rest

def Passage.Ahead (rest : Bytes) : Passage → Prop
  | ⟨frames, .value, t⟩ => ∃ u v, Blanks t u ∧ Value u v ∧ Closes frames v rest
  | ⟨frame :: outer, .firstOrEnd, t⟩ => ∃ u, Inside frame t u ∧ Closes outer u rest
  | ⟨frames, _, t⟩ => Closes frames t rest

theorem Entry.after_blanks {frame : Frame} {t u rest : Bytes} (h : Entry frame u rest)
    (blanks : Blanks t u) : Entry frame t rest := by
  cases h with
  | entry key more value =>
    cases key with
    | item => exact .entry .item (blanks.trans more) value
    | name mark name colon => exact .entry (.name (blanks.trans mark) name colon) more value

theorem Passes.ahead {s s' : Passage} {rest : Bytes} (h : Passes s s') (hs' : s'.Ahead rest) :
    s.Ahead rest := by
  cases h with
  | scalar blanks _ skipped =>
    exact ⟨_, _, blanks, .scalar (scalar_of_skipScalar skipped).2, hs'⟩
  | opens blanks =>
    obtain ⟨v, inside, closes⟩ := hs'
    exact ⟨_, v, blanks, .nested inside, closes⟩
  | @closes frame outer awaited t u hawaited blanks =>
    cases awaited with
    | value => exact absurd rfl hawaited
    | firstOrEnd => exact ⟨u, .empty blanks, hs'⟩
    | nextOrEnd => exact .cons (.close blanks) hs'
  | first blanks _ _ key =>
    obtain ⟨v, w, more, value, closes⟩ := hs'
    cases closes with
    | cons others closes =>
      exact ⟨_, .entries (Entry.after_blanks (.entry key more value) blanks) others, closes⟩
  | next comma key =>
    obtain ⟨v, w, blanks, value, closes⟩ := hs'
    cases closes with
    | cons more closes => exact .cons (.entry comma (.entry key blanks value) more) closes

theorem ahead_of_passes {s s' : Passage} (h : ReflTransGen Passes s s') (hstops : s'.Stops) :
    s.Ahead s'.left := by
  induction h using ReflTransGen.head_induction_on with
  | refl =>
    obtain ⟨frames, awaited, t⟩ := s'
    obtain ⟨rfl, hawaited⟩ := hstops
    cases awaited with
    | value => exact absurd rfl hawaited
    | firstOrEnd => exact .nil
    | nextOrEnd => exact .nil
  | head hpasses _ ih => exact hpasses.ahead ih

theorem endsNumber_of_blanks {t u : Bytes} {b : UInt8} (h : Blanks t (b :: u))
    (hb : b = 0x2c ∨ b = 0x5d ∨ b = 0x7d) : EndsNumber t := by
  have hplain : ∀ c, (Read.isBlank c = true ∨ c = 0x2c ∨ c = 0x5d ∨ c = 0x7d) →
      Number.isDigit c = false ∧ c ≠ 0x2e ∧ c ≠ 0x65 ∧ c ≠ 0x45 := by
    intro c hc
    simp only [Read.isBlank, Bool.or_eq_true, beq_iff_eq] at hc
    rcases hc with (((rfl | rfl) | rfl) | rfl) | rfl | rfl | rfl <;> decide
  obtain ⟨ws, rfl, hws⟩ := h
  intro c hc
  cases ws with
  | nil =>
    cases hc
    exact hplain b (.inr hb)
  | cons w ws =>
    cases hc
    exact hplain _ (.inl (hws _ List.mem_cons_self))

theorem More.endsNumber {frame : Frame} {t rest : Bytes} (h : More frame t rest) :
    EndsNumber t := by
  cases h with
  | close close => exact endsNumber_of_blanks close (by cases frame <;> decide)
  | entry comma _ _ => exact endsNumber_of_blanks comma (.inl rfl)

theorem Value.head {t rest : Bytes} (h : Value t rest) :
    ∃ b u, t = b :: u ∧ Read.isBlank b = false ∧ b ≠ 0x5d := by
  cases h with
  | scalar h =>
    obtain ⟨b, u, rfl, hb⟩ := h.starts
    exact ⟨b, u, rfl, hb.plain.1, hb.plain.2.1⟩
  | @nested frame u _ _ =>
    exact ⟨_, u, rfl, isBlank_opening frame, by cases frame <;> decide⟩

/-- A first entry begins with a byte that does not close its frame. -/
theorem Key.passes {frame : Frame} {t u v : Bytes} {b : UInt8} (outer : List Frame)
    (h : Key frame t u) (blanks : Blanks u (b :: v)) (hblank : Read.isBlank b = false)
    (hclose : b ≠ 0x5d) :
    ∃ w, Passes ⟨frame :: outer, .firstOrEnd, t⟩ ⟨frame :: outer, .value, w⟩ ∧
      Blanks w (b :: v) := by
  cases h with
  | item => exact ⟨b :: v, .first blanks hblank hclose .item, .refl _⟩
  | name mark name colon =>
    have hkey := Key.name (.refl _) name colon
    exact ⟨u, .first mark rfl (by decide) hkey, blanks⟩

mutual

theorem Value.passes {t t' rest : Bytes} (frames : List Frame) (blanks : Blanks t' t)
    (ends : EndsNumber rest) (h : Value t rest) :
    ReflTransGen Passes ⟨frames, .value, t'⟩ ⟨frames, .nextOrEnd, rest⟩ :=
  match h with
  | .scalar h => by
    obtain ⟨b, u, rfl, hb, hskip⟩ := h.skipScalar_eq ends
    exact .single (.scalar blanks hb hskip)
  | .nested inside => .head (.opens blanks) (inside.passes frames)

theorem Inside.passes {frame : Frame} {t rest : Bytes} (outer : List Frame)
    (h : Inside frame t rest) :
    ReflTransGen Passes ⟨frame :: outer, .firstOrEnd, t⟩ ⟨outer, .nextOrEnd, rest⟩ :=
  match h with
  | .empty close => .single (.closes nofun close)
  | .entries first more => .trans (first.passes outer more.endsNumber).1 (more.passes outer)

theorem Entry.passes {frame : Frame} {t rest : Bytes} (outer : List Frame)
    (ends : EndsNumber rest) (h : Entry frame t rest) :
    ReflTransGen Passes ⟨frame :: outer, .firstOrEnd, t⟩ ⟨frame :: outer, .nextOrEnd, rest⟩ ∧
      ∀ t', Blanks t' (0x2c :: t) →
        ReflTransGen Passes ⟨frame :: outer, .nextOrEnd, t'⟩ ⟨frame :: outer, .nextOrEnd, rest⟩ :=
  match h with
  | .entry key blanks value => by
    have hvalue : ∀ w, Blanks w _ → ReflTransGen Passes ⟨frame :: outer, .value, w⟩
        ⟨frame :: outer, .nextOrEnd, rest⟩ := fun _ hw => value.passes (frame :: outer) hw ends
    constructor
    · obtain ⟨b, u, rfl, hblank, hclose⟩ := value.head
      obtain ⟨w, hpasses, hw⟩ := key.passes outer blanks hblank hclose
      exact .head hpasses (hvalue w hw)
    · exact fun t' comma => .head (.next comma key) (hvalue _ blanks)

theorem More.passes {frame : Frame} {t rest : Bytes} (outer : List Frame) (h : More frame t rest) :
    ReflTransGen Passes ⟨frame :: outer, .nextOrEnd, t⟩ ⟨outer, .nextOrEnd, rest⟩ :=
  match h with
  | .close close => .single (.closes nofun close)
  | .entry comma next more =>
    .trans ((next.passes outer more.endsNumber).2 _ comma) (more.passes outer)

end

theorem Blanks.suffix {t rest : Bytes} (h : Blanks t rest) : rest <:+ t := by
  obtain ⟨ws, rfl, -⟩ := h
  exact List.suffix_append ws rest

theorem Blanks.suffix_tail {t rest : Bytes} {b : UInt8} (h : Blanks t (b :: rest)) : rest <:+ t :=
  (List.suffix_cons b rest).trans h.suffix

theorem Hex4.suffix {t rest : Bytes} {n : Nat} (h : Hex4 t n rest) : rest <:+ t := by
  cases h with
  | @digits a b c d => exact List.suffix_append [a, b, c, d] rest

theorem Skims.suffix {t rest : Bytes} (h : Skims t rest) : rest <:+ t := by
  induction h with
  | close => exact List.suffix_cons _ _
  | @plain b _ _ _ _ _ _ ih => exact ih.trans (List.suffix_cons b _)
  | @short b _ _ _ _ _ ih => exact ih.trans (List.suffix_append [0x5c, b] _)
  | number digits _ ih => exact ih.trans (digits.suffix.trans (List.suffix_append [0x5c, 0x75] _))

theorem Scalar.suffix {t rest : Bytes} (h : Scalar t rest) : rest <:+ t := by
  cases h with
  | word _ => exact List.suffix_append _ _
  | string body => exact body.suffix.trans (List.suffix_cons _ _)
  | number _ => exact List.suffix_append _ _

theorem Key.suffix {frame : Frame} {t rest : Bytes} (h : Key frame t rest) : rest <:+ t := by
  cases h with
  | item => exact List.suffix_refl t
  | name mark name colon => exact colon.suffix_tail.trans (name.suffix.trans mark.suffix_tail)

mutual

theorem Value.suffix {t rest : Bytes} (h : Value t rest) : rest <:+ t :=
  match h with
  | .scalar h => h.suffix
  | .nested inside => inside.suffix.trans (List.suffix_cons _ _)

theorem Inside.suffix {frame : Frame} {t rest : Bytes} (h : Inside frame t rest) : rest <:+ t :=
  match h with
  | .empty close => close.suffix_tail
  | .entries first more => more.suffix.trans first.suffix

theorem Entry.suffix {frame : Frame} {t rest : Bytes} (h : Entry frame t rest) : rest <:+ t :=
  match h with
  | .entry key blanks value => value.suffix.trans (blanks.suffix.trans key.suffix)

theorem More.suffix {frame : Frame} {t rest : Bytes} (h : More frame t rest) : rest <:+ t :=
  match h with
  | .close close => close.suffix_tail
  | .entry comma next more => more.suffix.trans (next.suffix.trans comma.suffix_tail)

end

/-- What is passed over is a value. -/
theorem of_skip {t rest : Bytes} (h : skip t = .ok ((), rest)) :
    ∃ v, Blanks t (v ++ rest) ∧ Value (v ++ rest) rest := by
  obtain ⟨rest', hrun, heq⟩ := map_eq_ok_iff.mp h
  cases heq
  have hneed : Passage.need ⟨[], .value, t⟩ ≤ 2 * t.length + 2 := by
    unfold Passage.need
    dsimp only
    rw [if_pos rfl]
    omega
  obtain ⟨s', hpasses, hstops, rfl⟩ := of_run hneed hrun
  obtain ⟨u, v, blanks, value, closes⟩ := ahead_of_passes hpasses hstops
  cases closes
  obtain ⟨v, rfl⟩ := value.suffix
  exact ⟨v, blanks, value⟩

/-- A value is passed over when what follows does not go on with a number at its end. -/
theorem Value.skip_eq {t u rest : Bytes} (h : Value u rest) (blanks : Blanks t u)
    (ends : EndsNumber rest) : skip t = .ok ((), rest) := by
  refine map_eq_ok_iff.mpr ⟨rest, ?_, rfl⟩
  refine run_eq (h.passes [] blanks ends) ⟨rfl, nofun⟩ ?_
  unfold Passage.need
  dsimp only
  rw [if_pos rfl]
  omega

end MediaPerimeter.Json
