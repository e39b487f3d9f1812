import Mathlib.Data.List.Forall2
import MediaPerimeter.Json.Record
import MediaPerimeter.Proofs.Json.Skip

/-!
# Records

A record that is read from an object takes the value of each of its fields from the one member with
that name. A field that occurs twice, or is missing, is refused, and other members are passed over.
-/
namespace MediaPerimeter.Json

open Read Outcome

theorem closeObject_eq_ok_iff {t rest : Bytes} :
    closeObject t = .ok rest ↔ Blanks t (0x7d :: rest) := by
  constructor
  · intro h
    unfold closeObject at h
    split at h
    · cases h
    · rename_i u hskip
      cases h
      exact blanks_of_skipBlanks hskip
    · cases h
    · cases h
  · intro h
    unfold closeObject
    rw [h.skipBlanks_eq_cons rfl]
    rfl

theorem closeList_eq_ok_iff {t rest : Bytes} :
    closeList t = .ok rest ↔ Blanks t (0x5d :: rest) := by
  constructor
  · intro h
    unfold closeList at h
    split at h
    · cases h
    · rename_i u hskip
      cases h
      exact blanks_of_skipBlanks hskip
    · split at h
      · cases h
      · cases h
    · cases h
  · intro h
    unfold closeList
    rw [h.skipBlanks_eq_cons rfl]
    rfl

theorem leads_of_nextKey {first : Bool} {t u : Bytes} (h : nextKey first t = .ok (some u)) :
    Leads first t u := by
  unfold nextKey at h
  split at h
  · cases h
  · cases h
  rename_i b v _ hskip
  have hblanks := blanks_of_skipBlanks hskip
  split at h
  · rename_i hfirst
    split at h
    · rename_i hb
      cases h
      rw [Leads, if_pos hfirst]
      exact hb ▸ hblanks
    · cases h
  rename_i hfirst
  split at h
  · rename_i hb
    split at h
    · cases h
    · rename_i w hskip'
      cases h
      rw [Leads, if_neg hfirst]
      exact ⟨v, hb ▸ hblanks, blanks_of_skipBlanks hskip'⟩
    · cases h
    · cases h
  · cases h

theorem Leads.nextKey_eq {first : Bool} {t u : Bytes} (h : Leads first t u) :
    nextKey first t = .ok (some u) := by
  unfold nextKey
  cases first with
  | true =>
    have hmark : Blanks t (0x22 :: u) := h
    rw [hmark.skipBlanks_eq_cons rfl]
    rfl
  | false =>
    obtain ⟨v, hcomma, hmark⟩ : ∃ v, Blanks t (0x2c :: v) ∧ Blanks v (0x22 :: u) := h
    rw [hcomma.skipBlanks_eq_cons rfl]
    split
    · rename_i heq
      cases heq
    · rename_i heq
      cases heq
    · rename_i heq
      cases heq
      rw [if_neg Bool.false_ne_true, if_pos rfl, hmark.skipBlanks_eq_cons rfl]
      rfl

theorem nextKey_close {first : Bool} {t rest : Bytes} (h : Blanks t (0x7d :: rest)) :
    nextKey first t = .ok none := by
  unfold nextKey
  rw [h.skipBlanks_eq_cons rfl]
  rfl

section Rules

variable {σ : Type} (Means : Rule σ → Bytes → (σ → σ) → Prop)

/-- What a rule reads is a value, and means what is collected. -/
def Sound (rules : List (Rule σ)) : Prop :=
  ∀ rule ∈ rules, ∀ t put rest, rule.read t = .ok (put, rest) →
    ∃ v, Blanks t (v ++ rest) ∧ Value (v ++ rest) rest ∧ Means rule v put

/-- A rule reads whatever means something to it. -/
def Complete (rules : List (Rule σ)) : Prop :=
  ∀ rule ∈ rules, ∀ v put, Means rule v put →
    ∀ t rest, Blanks t (v ++ rest) → EndsNumber rest → rule.read t = .ok (put, rest)

/-- Members are collected in order: `seen` are the fields that have been, `s` is what has been
collected from them. -/
inductive Collects (rules : List (Rule σ)) :
    List Text → σ → List (Text × Bytes) → List Text → σ → Prop
  | done {seen s} : Collects rules seen s [] seen s
  | other {seen s name v ms seen' s'} (unknown : rules.find? (·.name == name) = none)
      (more : Collects rules seen s ms seen' s') :
      Collects rules seen s ((name, v) :: ms) seen' s'
  | field {seen s name v ms seen' s' rule put}
      (known : rules.find? (·.name == name) = some rule) (unseen : name ∉ seen)
      (means : Means rule v put) (more : Collects rules (name :: seen) (put s) ms seen' s') :
      Collects rules seen s ((name, v) :: ms) seen' s'

variable {Means} {rules : List (Rule σ)}

theorem collects_of_recordFields (hsound : Sound Means rules) {count : Nat} {first : Bool}
    {seen seen' : List Text} {s s' : σ} {t u rest : Bytes}
    (h : recordFields rules count first seen s t = .ok ((seen', s'), u))
    (hclose : closeObject u = .ok rest) :
    ∃ ms, Members first ms t rest ∧ Collects Means rules seen s ms seen' s' := by
  -- Whatever the count, the fields have ended where the brace is found.
  induction count generalizing first seen s t with
  | zero =>
    have h : Except.ok ((seen, s), t) = Except.ok ((seen', s'), u) := h
    cases h
    exact ⟨[], .close (closeObject_eq_ok_iff.mp hclose), .done⟩
  | succ count ih =>
    obtain ⟨next, hnext, h⟩ := bind_eq_ok_iff.mp h
    cases next with
    | none =>
      cases h
      exact ⟨[], .close (closeObject_eq_ok_iff.mp hclose), .done⟩
    | some v =>
      have hlead := leads_of_nextKey hnext
      obtain ⟨⟨name, w⟩, hname, h⟩ := bind_eq_ok_iff.mp h
      have hspells := stringTail_eq_ok_iff.mp hname
      dsimp only at h
      split at h
      · rename_i hfind
        obtain ⟨⟨_, x⟩, hskip, h⟩ := bind_eq_ok_iff.mp h
        obtain ⟨y, hcolon, hskip⟩ := bind_eq_ok_iff.mp (mapError_eq_ok_iff.mp hskip)
        obtain ⟨value, hblanks, hvalue⟩ := of_skip hskip
        obtain ⟨ms, hmembers, hcollects⟩ := ih h
        exact ⟨(name, value) :: ms,
          .member hlead hspells (colon_eq_ok_iff.mp hcolon) hblanks hvalue hmembers,
          .other hfind hcollects⟩
      · rename_i rule hfind
        split at h
        · cases h
        rename_i hunseen
        obtain ⟨⟨put, x⟩, hread, h⟩ := bind_eq_ok_iff.mp h
        obtain ⟨y, hcolon, hread⟩ := bind_eq_ok_iff.mp (mapError_eq_ok_iff.mp hread)
        obtain ⟨value, hblanks, hvalue, hmeans⟩ :=
          hsound rule (List.mem_of_find?_eq_some hfind) _ _ _ hread
        obtain ⟨ms, hmembers, hcollects⟩ := ih h
        exact ⟨(name, value) :: ms,
          .member hlead hspells (colon_eq_ok_iff.mp hcolon) hblanks hvalue hmembers,
          .field hfind hunseen hmeans hcollects⟩

theorem Leads.length_lt {first : Bool} {t u : Bytes} (h : Leads first t u) :
    u.length < t.length := by
  cases first with
  | true =>
    have hmark : Blanks t (0x22 :: u) := h
    exact hmark.length_le
  | false =>
    obtain ⟨v, hcomma, hmark⟩ := h
    exact Nat.lt_trans hmark.length_le hcomma.length_le

theorem Members.length_lt {first : Bool} {ms : List (Text × Bytes)} {t rest : Bytes}
    (h : Members first ms t rest) : ms.length < t.length := by
  induction h with
  | close close => exact Nat.lt_of_lt_of_le (Nat.succ_pos _) close.length_le
  | member lead spells colon blanks _ _ ih =>
    have hlead := lead.length_lt
    have hspells := spells.skims.length_lt
    have hcolon := colon.length_le
    have hblanks := blanks.length_le
    simp only [List.length_cons, List.length_append] at hcolon hblanks ⊢
    omega

theorem Members.endsNumber {ms : List (Text × Bytes)} {t rest : Bytes}
    (h : Members false ms t rest) : EndsNumber t := by
  cases h with
  | close close => exact endsNumber_of_blanks close (.inr (.inr rfl))
  | member lead =>
    obtain ⟨u, hcomma, -⟩ := lead
    exact endsNumber_of_blanks hcomma (.inl rfl)

theorem Collects.recordFields_eq (hcomplete : Complete Means rules) {count : Nat} {first : Bool}
    {ms : List (Text × Bytes)} {seen seen' : List Text} {s s' : σ} {t rest : Bytes}
    (hcollects : Collects Means rules seen s ms seen' s') (hmembers : Members first ms t rest)
    (hcount : ms.length < count) :
    ∃ u, recordFields rules count first seen s t = .ok ((seen', s'), u) ∧
      Blanks u (0x7d :: rest) := by
  -- The members are taken apart along with what is collected from them.
  induction hcollects generalizing count first t with
  | @done seen s =>
    cases hmembers with
    | close close =>
      obtain ⟨count, rfl⟩ := Nat.exists_eq_succ_of_ne_zero (Nat.ne_of_gt hcount)
      refine ⟨t, ?_, close⟩
      exact bind_eq_ok_iff.mpr ⟨none, nextKey_close close, rfl⟩
  | @other seen s name v ms seen' s' unknown more ih =>
    cases hmembers with
    | @member _ _ a _ b c _ x _ _ lead spells colon blanks form others =>
      obtain ⟨count, rfl⟩ := Nat.exists_eq_succ_of_ne_zero (Nat.ne_of_gt (Nat.zero_lt_of_lt hcount))
      obtain ⟨u, hrest, hclose⟩ := ih others (Nat.lt_of_succ_lt_succ hcount)
      refine ⟨u, ?_, hclose⟩
      have hskip := form.skip_eq blanks others.endsNumber
      refine bind_eq_ok_iff.mpr ⟨some a, lead.nextKey_eq, ?_⟩
      refine bind_eq_ok_iff.mpr ⟨(name, b), stringTail_eq_ok_iff.mpr spells, ?_⟩
      dsimp only
      rw [unknown]
      refine bind_eq_ok_iff.mpr ⟨((), x), ?_, hrest⟩
      exact mapError_eq_ok_iff.mpr (bind_eq_ok_iff.mpr ⟨c, colon_eq_ok_iff.mpr colon, hskip⟩)
  | @field seen s name v ms seen' s' rule put known unseen means more ih =>
    cases hmembers with
    | @member _ _ a _ b c _ x _ _ lead spells colon blanks form others =>
      obtain ⟨count, rfl⟩ := Nat.exists_eq_succ_of_ne_zero (Nat.ne_of_gt (Nat.zero_lt_of_lt hcount))
      obtain ⟨u, hrest, hclose⟩ := ih others (Nat.lt_of_succ_lt_succ hcount)
      refine ⟨u, ?_, hclose⟩
      have hread := hcomplete rule (List.mem_of_find?_eq_some known) v put means c x blanks
        others.endsNumber
      refine bind_eq_ok_iff.mpr ⟨some a, lead.nextKey_eq, ?_⟩
      refine bind_eq_ok_iff.mpr ⟨(name, b), stringTail_eq_ok_iff.mpr spells, ?_⟩
      dsimp only
      rw [known]
      dsimp only
      rw [if_neg unseen]
      refine bind_eq_ok_iff.mpr ⟨(put, x), ?_, hrest⟩
      exact mapError_eq_ok_iff.mpr (bind_eq_ok_iff.mpr ⟨c, colon_eq_ok_iff.mpr colon, hread⟩)

def HasAll (rules : List (Rule σ)) (seen : List Text) : Prop :=
  ∀ rule ∈ rules, rule.inObject = true → rule.name ∈ seen

theorem hasAll_iff {seen : List Text} :
    (rules.find? fun r => r.inObject && !seen.contains r.name) = none ↔ HasAll rules seen := by
  rw [List.find?_eq_none]
  refine forall₂_congr fun rule _ => ?_
  cases rule.inObject <;> simp

theorem of_objectRecord (hsound : Sound Means rules) {s s' : σ} {t rest : Bytes}
    (h : objectRecord rules s t = .ok (s', rest)) :
    ∃ ms seen, Members true ms t rest ∧ Collects Means rules [] s ms seen s' ∧
      HasAll rules seen := by
  obtain ⟨⟨⟨seen, s''⟩, u⟩, hfields, h⟩ := bind_eq_ok_iff.mp h
  dsimp only at h
  split at h
  · cases h
  rename_i hfind
  obtain ⟨v, hclose, h⟩ := bind_eq_ok_iff.mp h
  cases h
  obtain ⟨ms, hmembers, hcollects⟩ := collects_of_recordFields hsound hfields hclose
  exact ⟨ms, seen, hmembers, hcollects, hasAll_iff.mp hfind⟩

theorem Collects.objectRecord_eq (hcomplete : Complete Means rules) {ms : List (Text × Bytes)}
    {seen : List Text} {s s' : σ} {t rest : Bytes}
    (hcollects : Collects Means rules [] s ms seen s') (hall : HasAll rules seen)
    (hmembers : Members true ms t rest) :
    objectRecord rules s t = .ok (s', rest) := by
  obtain ⟨u, hfields, hclose⟩ := hcollects.recordFields_eq hcomplete hmembers
    (Nat.lt_succ_of_lt hmembers.length_lt)
  refine bind_eq_ok_iff.mpr ⟨((seen, s'), u), hfields, ?_⟩
  dsimp only
  rw [hasAll_iff.mpr hall]
  exact bind_eq_ok_iff.mpr ⟨rest, closeObject_eq_ok_iff.mpr hclose, rfl⟩

theorem valuesOf_cons (name : String) (key : Text) (v : Bytes) (ms : List (Text × Bytes)) :
    valuesOf name ((key, v) :: ms) =
      if key = name.toList then v :: valuesOf name ms else valuesOf name ms := by
  unfold valuesOf
  rw [List.filter_cons]
  by_cases h : key = name.toList
  · rw [if_pos h, if_pos (beq_iff_eq.mpr h), List.map_cons]
  · rw [if_neg h, if_neg fun heq => h (beq_iff_eq.mp heq)]

theorem name_of_find? {rule : Rule σ} {key : Text}
    (h : rules.find? (·.name == key) = some rule) : rule.name = key := by
  have hname := @List.find?_some (Rule σ) (fun rule => rule.name == key) rule rules h
  exact eq_of_beq hname

structure Sets {α : Type} (Means : Rule σ → Bytes → (σ → σ) → Prop) (name : String) (get : σ → α)
    (P : Bytes → α → Prop) : Prop where
  sets : ∀ rule v put, Means rule v put → rule.name = name.toList → ∀ s, P v (get (put s))
  keeps : ∀ rule v put, Means rule v put → rule.name ≠ name.toList → ∀ s, get (put s) = get s

/-- A field of a record that was seen has one value, and what is got comes from it. -/
theorem Collects.valuesOf_eq {α : Type} {name : String} {get : σ → α} {P : Bytes → α → Prop}
    (hsets : Sets Means name get P) (hknown : ∃ rule ∈ rules, rule.name = name.toList)
    {ms : List (Text × Bytes)} {seen seen' : List Text} {s s' : σ}
    (h : Collects Means rules seen s ms seen' s') :
    (name.toList ∈ seen → valuesOf name ms = [] ∧ get s' = get s) ∧
      (name.toList ∉ seen → name.toList ∈ seen' →
        ∃ v, valuesOf name ms = [v] ∧ P v (get s')) := by
  induction h with
  | done => exact ⟨fun _ => ⟨rfl, rfl⟩, fun hnot hseen => absurd hseen hnot⟩
  | @other seen s key v ms seen' s' unknown _ ih =>
    have hne : key ≠ name.toList := by
      rintro rfl
      obtain ⟨rule, hrule, hname⟩ := hknown
      exact List.find?_eq_none.mp unknown rule hrule (beq_iff_eq.mpr hname)
    rw [valuesOf_cons, if_neg hne]
    exact ih
  | @field seen s key v ms seen' s' rule put known unseen means _ ih =>
    have hname := name_of_find? known
    rw [valuesOf_cons]
    by_cases hkey : key = name.toList
    · rw [if_pos hkey]
      obtain ⟨hvalues, hget⟩ := ih.1 (hkey ▸ List.mem_cons_self)
      constructor
      · exact fun hseen => absurd (hkey ▸ hseen) unseen
      · intro _ _
        refine ⟨v, by rw [hvalues], ?_⟩
        rw [hget]
        exact hsets.sets rule v put means (hname.trans hkey) s
    · rw [if_neg hkey]
      have hkeeps := hsets.keeps rule v put means (fun heq => hkey (hname.symm.trans heq)) s
      constructor
      · intro hseen
        obtain ⟨hvalues, hget⟩ := ih.1 (List.mem_cons_of_mem key hseen)
        exact ⟨hvalues, hget.trans hkeeps⟩
      · intro hnot hseen
        refine ih.2 ?_ hseen
        exact fun hmem => (List.mem_cons.mp hmem).elim (fun heq => hkey heq.symm) hnot

/-- A field that an object must have has one value, and what is got comes from it. -/
theorem Collects.field_of_hasAll {α : Type} {name : String} {get : σ → α} {P : Bytes → α → Prop}
    (hsets : Sets Means name get P) {rule : Rule σ} (hrule : rule ∈ rules)
    (hname : rule.name = name.toList) (hobject : rule.inObject = true)
    {ms : List (Text × Bytes)} {seen : List Text} {s s' : σ}
    (h : Collects Means rules [] s ms seen s') (hall : HasAll rules seen) :
    ∃ v, valuesOf name ms = [v] ∧ P v (get s') := by
  have hseen := hall rule hrule hobject
  rw [hname] at hseen
  exact (h.valuesOf_eq hsets ⟨rule, hrule, hname⟩).2 List.not_mem_nil hseen

/-- A record of one field is collected from the only member with its name. -/
theorem collects_of_valuesOf {name : String} {rule : Rule σ} {v : Bytes} {put : σ → σ}
    (hname : rule.name = name.toList) (means : Means rule v put) (ms : List (Text × Bytes))
    (seen : List Text) (s : σ) :
    (valuesOf name ms = [] → Collects Means [rule] seen s ms seen s) ∧
      (valuesOf name ms = [v] → name.toList ∉ seen →
        Collects Means [rule] seen s ms (name.toList :: seen) (put s)) := by
  induction ms generalizing seen s with
  | nil => exact ⟨fun _ => .done, nofun⟩
  | cons m ms ih =>
    obtain ⟨key, value⟩ := m
    rw [valuesOf_cons]
    by_cases hkey : key = name.toList
    · rw [if_pos hkey]
      refine ⟨nofun, fun hvalues hseen => ?_⟩
      obtain ⟨rfl, hrest⟩ := List.cons.inj hvalues
      subst hkey
      have hknown : [rule].find? (·.name == name.toList) = some rule :=
        List.find?_cons_of_pos (beq_iff_eq.mpr hname)
      exact .field hknown hseen means ((ih _ _).1 hrest)
    · rw [if_neg hkey]
      have hunknown : [rule].find? (·.name == key) = none := by
        refine List.find?_eq_none.mpr fun other hother heq => hkey ?_
        rw [List.mem_singleton.mp hother] at heq
        exact (beq_iff_eq.mp heq).symm.trans hname
      exact ⟨fun hvalues => .other hunknown ((ih seen s).1 hvalues),
        fun hvalues hseen => .other hunknown ((ih seen s).2 hvalues hseen)⟩

end Rules

theorem nextItem_close {first : Bool} {t rest : Bytes} (h : Blanks t (0x5d :: rest)) :
    nextItem first t = .ok none := by
  unfold nextItem
  rw [h.skipBlanks_eq_cons rfl]
  rfl

theorem nextItem_first {t u : Bytes} {b : UInt8} (h : Blanks t (b :: u))
    (hblank : Read.isBlank b = false) (hclose : b ≠ 0x5d) : nextItem true t = .ok (some (b :: u)) := by
  unfold nextItem
  rw [h.skipBlanks_eq_cons hblank]
  split
  · rename_i heq
    cases heq
  · rename_i heq
    cases heq
    exact absurd rfl hclose
  · rename_i heq
    cases heq
    rw [if_pos rfl]

theorem blanks_of_nextItem {t u : Bytes} (h : nextItem true t = .ok (some u)) : Blanks t u := by
  unfold nextItem at h
  split at h
  · cases h
  · cases h
  · rename_i b v _ hskip
    rw [if_pos rfl] at h
    cases h
    exact blanks_of_skipBlanks hskip

theorem endsNumber_of_nextItem {t u : Bytes} (h : nextItem false t = .ok (some u)) :
    EndsNumber t := by
  unfold nextItem at h
  split at h
  · cases h
  · cases h
  rename_i b v _ hskip
  rw [if_neg Bool.false_ne_true] at h
  split at h
  · rename_i hb
    exact endsNumber_of_blanks (blanks_of_skipBlanks hskip) (.inl hb)
  · cases h

section Lists

variable {σ τ : Type} {rules : List (Rule σ)}

theorem of_recordItems_cons {whole : String} {rule : Rule σ} {i : Nat} {s s' : σ} {t u : Bytes}
    (hlist : rule.inList = true) (h : recordItems whole (rule :: rules) i s t = .ok (s', u)) :
    ∃ v put w, nextItem (i == 0) t = .ok (some v) ∧ rule.read v = .ok (put, w) ∧
      recordItems whole rules (i + 1) (put s) w = .ok (s', u) := by
  rw [recordItems] at h
  obtain ⟨next, hnext, h⟩ := bind_eq_ok_iff.mp h
  have hnext := mapError_eq_ok_iff.mp hnext
  cases next with
  | none =>
    dsimp only at h
    rw [if_pos hlist] at h
    cases h
  | some v =>
    obtain ⟨⟨put, w⟩, hread, h⟩ := bind_eq_ok_iff.mp h
    exact ⟨v, put, w, hnext, mapError_eq_ok_iff.mp hread, h⟩

/-- After an item that is read, the next one or the end of the list follows. -/
theorem endsNumber_of_recordItems {whole : String} {i : Nat} {s s' : σ} {t u rest : Bytes}
    (hlist : ∀ rule ∈ rules, rule.inList = true)
    (h : recordItems whole rules (i + 1) s t = .ok (s', u)) (hclose : closeList u = .ok rest) :
    EndsNumber t := by
  cases rules with
  | nil =>
    rw [recordItems] at h
    cases h
    exact endsNumber_of_blanks (closeList_eq_ok_iff.mp hclose) (.inr (.inl rfl))
  | cons rule rules =>
    obtain ⟨v, put, w, hnext, -, -⟩ := of_recordItems_cons (hlist rule List.mem_cons_self) h
    exact endsNumber_of_nextItem hnext

/-- The second rule reads an item as far as the first does. -/
def Follows (rule : Rule σ) (rule' : Rule τ) : Prop := ∀ t put rest,
  rule.read t = .ok (put, rest) → EndsNumber rest → ∃ put', rule'.read t = .ok (put', rest)

theorem recordItems_close {whole : String} {rule : Rule τ} {more : List (Rule τ)} {i : Nat} {s : τ}
    {t rest : Bytes} (hlist : rule.inList = true) (h : Blanks t (0x5d :: rest)) :
    ∃ f, recordItems whole (rule :: more) i s t = .error f := by
  refine ⟨⟨.mismatch s!"invalid length {i}, expected {whole}", none, pastList t⟩, ?_⟩
  rw [recordItems]
  refine bind_eq_error_iff.mpr (.inr ⟨none, ?_, ?_⟩)
  · rw [nextItem_close h]
    rfl
  · dsimp only
    rw [if_pos hlist]
    rfl

/-- A list with an item for each rule is too short for rules that go on. -/
theorem recordItems_longer {whole whole' : String} {rules' : List (Rule τ)} {rule' : Rule τ}
    {more : List (Rule τ)} (hlist : ∀ rule ∈ rules, rule.inList = true)
    (hfollows : List.Forall₂ Follows rules rules') (hlist' : rule'.inList = true) {i : Nat}
    {s s' : σ} (r : τ) {t u rest : Bytes} (h : recordItems whole rules i s t = .ok (s', u))
    (hclose : closeList u = .ok rest) :
    ∃ f, recordItems whole' (rules' ++ rule' :: more) i r t = .error f := by
  induction hfollows generalizing i s t r with
  | nil =>
    rw [recordItems] at h
    cases h
    exact recordItems_close hlist' (closeList_eq_ok_iff.mp hclose)
  | @cons rule other rules others hfollow _ ih =>
    obtain ⟨v, put, w, hnext, hread, h⟩ := of_recordItems_cons (hlist rule List.mem_cons_self) h
    have hrest : ∀ rule ∈ rules, rule.inList = true :=
      fun rule hrule => hlist rule (List.mem_cons_of_mem _ hrule)
    obtain ⟨put', hread'⟩ := hfollow v put w hread (endsNumber_of_recordItems hrest h hclose)
    obtain ⟨f, hf⟩ := ih hrest (put' r) h
    refine ⟨f, ?_⟩
    rw [List.cons_append, recordItems]
    refine bind_eq_error_iff.mpr (.inr ⟨some v, mapError_eq_ok_iff.mpr hnext, ?_⟩)
    exact bind_eq_error_iff.mpr (.inr ⟨(put', w), mapError_eq_ok_iff.mpr hread', hf⟩)

end Lists

theorem document_eq_ok_iff {α : Type} {read : Reader α} {t : Bytes} {x : α} :
    document read t = .ok x ↔ ∃ rest, read t = .ok (x, rest) ∧ Blanks rest [] := by
  constructor
  · intro h
    obtain ⟨⟨x', rest⟩, hread, h⟩ := bind_eq_ok_iff.mp h
    dsimp only at h
    split at h
    · rename_i hskip
      cases h
      exact ⟨rest, hread, blanks_of_skipBlanks hskip⟩
    · cases h
  · rintro ⟨rest, hread, hblanks⟩
    refine bind_eq_ok_iff.mpr ⟨(x, rest), hread, ?_⟩
    dsimp only
    rw [hblanks.skipBlanks_eq]
    rfl

section Documents

variable {σ : Type} {title : String} {rules : List (Rule σ)} {s s' : σ} {t u rest : Bytes}

theorem record_object (h : Blanks t (0x7b :: u)) :
    Read.record title rules s t = objectRecord rules s u := h.value_eq rfl _

theorem record_list (h : Blanks t (0x5b :: u)) :
    Read.record title rules s t = listRecord title rules s u := h.value_eq rfl _

theorem of_record (h : Read.record title rules s t = .ok (s', rest)) :
    ∃ u, (Blanks t (0x7b :: u) ∧ objectRecord rules s u = .ok (s', rest)) ∨
      (Blanks t (0x5b :: u) ∧ listRecord title rules s u = .ok (s', rest)) := by
  obtain ⟨b, u, hblanks, -, h⟩ := value_eq_ok_iff.mp h
  split at h
  · rename_i heq
    cases heq
    exact ⟨u, .inl ⟨hblanks, h⟩⟩
  · rename_i heq
    cases heq
    exact ⟨u, .inr ⟨hblanks, h⟩⟩
  · cases h

/-- A text that is read as a list of values is too short for rules that go on. -/
theorem record_longer {τ : Type} {title' : String} {rules' : List (Rule τ)} {rule' : Rule τ}
    {more : List (Rule τ)} (hlist : ∀ rule ∈ rules, rule.inList = true)
    (hfollows : List.Forall₂ Follows rules rules') (hlist' : rule'.inList = true) (r : τ)
    (hblanks : Blanks t (0x5b :: u)) (h : listRecord title rules s u = .ok (s', rest)) :
    ∃ f, Read.record title' (rules' ++ rule' :: more) r t = .error f := by
  obtain ⟨⟨s'', v⟩, hitems, h⟩ := bind_eq_ok_iff.mp h
  obtain ⟨w, hclose, -⟩ := bind_eq_ok_iff.mp h
  obtain ⟨f, hf⟩ := recordItems_longer hlist hfollows hlist' r hitems hclose
  exact ⟨f, (record_list hblanks).trans (bind_eq_error_iff.mpr (.inl hf))⟩

end Documents

end MediaPerimeter.Json
