import MediaPerimeter.Proofs.Text.Spelling
import MediaPerimeter.Proofs.Url.Names
import MediaPerimeter.Proofs.Url.Parts

/-!
# URLs of host names

A host name between `http://` and a slash is the host of the URL, in its ASCII form. Every ASCII text
that holds no mark of URLs is a host name in small letters, unless one of its labels claims to be an
encoded one, or its last label is a number: that is an address, well-formed or not.
-/
namespace MediaPerimeter.Url

open Idna (isAscii isForbidden isEncoded)

def ofName (name : Text) : Text := "http://".toList ++ (name ++ ['/'])

def frontPage (host : Host) : Url where
  scheme := "http".toList
  username := []
  password := none
  host := some host
  port := none
  path := ['/']
  query := none
  fragment := none

/-- The text is a host name, with its ASCII form: no character of it has another meaning in a URL,
and as a host it is a name and not an address. -/
structure IsHostName (name ascii : Text) : Prop where
  plain : ∀ c ∈ name, Host.isDelimiter c = false
  read : Host.ofDomain name = .ok (.name ascii)

theorem IsHostName.ne_nil {name ascii : Text} (h : IsHostName name ascii) : name ≠ [] := by
  rintro rfl
  have hempty : Host.ofDomain [] = .error .emptyHost := by decide +kernel
  cases hempty.symm.trans h.read

theorem IsHostName.ascii_ne_nil {name ascii : Text} (h : IsHostName name ascii) : ascii ≠ [] := by
  have hread := h.read
  unfold Host.ofDomain at hread
  split at hread
  · cases hread
  · cases hread
  · rename_i domain hne _
    split at hread
    · split at hread <;> cases hread
    · cases hread
      exact hne

variable {name : Text}

theorem clean_eq_self {t : Text} (hfirst : ∀ c ∈ t.head?, 0x20 < c.toNat)
    (hlast : ∀ c ∈ t.getLast?, 0x20 < c.toNat) (hkept : ∀ c ∈ t, c ≠ '\t' ∧ c ≠ '\n' ∧ c ≠ '\r') :
    clean t = t := by
  have hedge {c : Char} (h : 0x20 < c.toNat) : decide (c.toNat ≤ 0x20) = false :=
    decide_eq_false (Nat.not_le.mpr h)
  have hrev : ∀ c ∈ t.reverse.head?, decide (c.toNat ≤ 0x20) = false := by
    rw [List.head?_reverse]
    exact fun c hc => hedge (hlast c hc)
  unfold clean
  dsimp only
  rw [Text.dropWhile_eq_self fun c hc => hedge (hfirst c hc), Text.dropWhile_eq_self hrev,
    List.reverse_reverse]
  exact List.filter_eq_self.mpr fun c hc => by simp [hkept c hc]

theorem divideHost_eq_self (hcolon : ':' ∉ name) (hbracket : '[' ∉ name) :
    divideHost false name = (name, []) := by
  induction name with
  | nil => rfl
  | cons c rest ih =>
    simp only [List.mem_cons, not_or] at hcolon hbracket
    have hinside : (c == '[' || (false && c != ']')) = false := by
      simp [Ne.symm hbracket.1]
    rw [divideHost, if_neg fun h => hcolon.1 h.1.symm, hinside, ih hcolon.2 hbracket.2]

/-- An authority that is nothing but a host. -/
theorem readAuthority_host (hne : name ≠ []) (h : ∀ c ∈ name, Host.isDelimiter c = false) :
    readAuthority "http".toList (name ++ ['/']) = (Host.ofDomain name).map frontPage := by
  have hmark {d : Char} (hd : Host.isDelimiter d = true) : d ∉ name := fun hmem => by
    cases (h d hmem).symm.trans hd
  have hspecial : isSpecial "http".toList = true := by decide
  have hbreak : (name ++ ['/']).breakAt (endsAuthority true) = (name, ['/']) := by
    refine Text.breakAt_append_of_startsAt (fun c hc => ?_) fun c hc => ?_
    · rw [← Bool.not_eq_true]
      intro hends
      simp only [endsAuthority, isSlash, Bool.true_and, Bool.or_eq_true, beq_iff_eq] at hends
      rcases hends with ((rfl | rfl) | rfl) | rfl
      all_goals exact hmark (by decide) hc
    · cases hc
      decide
  have hcut : name.cutLast '@' = none := Text.cutLast_eq_none_iff.mpr (hmark (by decide))
  have hbracket : name.head? ≠ some '[' := fun hhead =>
    hmark (by decide) (List.mem_of_head? hhead)
  have hdivide : divideHost false name = (name, []) :=
    divideHost_eq_self (hmark (by decide)) (hmark (by decide))
  have hcredentials : credentials [] = ([], none) := by decide
  unfold readAuthority
  simp only [hspecial, hbreak, hcut, Option.getD_none, hdivide, hcredentials]
  rw [if_neg (by simp [hne]), Host.ofText, if_neg hbracket, if_pos rfl]
  cases Host.ofDomain name <;> rfl

theorem getLast?_ofName (name : Text) : (ofName name).getLast? = some '/' := by
  have hconcat : ofName name = ("http://".toList ++ name) ++ ['/'] := (List.append_assoc ..).symm
  rw [hconcat, List.getLast?_concat]

/-- The host of a front page is the name brought into ASCII form. -/
theorem read_ofName (hne : name ≠ []) (h : ∀ c ∈ name, Host.isDelimiter c = false) :
    read (ofName name) = (Host.ofDomain name).map frontPage := by
  have hclean : clean (ofName name) = ofName name := by
    refine clean_eq_self (fun c hc => ?_) (fun c hc => ?_) fun c hc => ?_
    · cases hc
      decide
    · rw [getLast?_ofName] at hc
      cases hc
      decide
    · have hfront : ∀ c ∈ "http://".toList, c ≠ '\t' ∧ c ≠ '\n' ∧ c ≠ '\r' := by simp
      rcases List.mem_append.mp hc with hc | hc
      · exact hfront c hc
      rcases List.mem_append.mp hc with hc | hc
      · refine ⟨?_, ?_, ?_⟩
        all_goals
          rintro rfl
          cases h _ hc
      · obtain rfl := List.mem_singleton.mp hc
        decide
  have hsplit : Scheme.split? (ofName name) =
      some ("http".toList, "//".toList ++ (name ++ ['/'])) :=
    Scheme.split?_eq_some_iff.mpr ⟨rfl, by decide⟩
  have hslashes : ("//".toList ++ (name ++ ['/'])).dropWhile (isSlash true) = name ++ ['/'] := by
    rw [List.dropWhile_append_of_pos (by simp [isSlash])]
    refine Text.dropWhile_eq_self fun c hc => ?_
    obtain ⟨first, rest, rfl⟩ := List.exists_cons_of_ne_nil hne
    cases hc
    rw [← Bool.not_eq_true]
    intro hslash
    simp only [isSlash, Bool.true_and, Bool.or_eq_true, beq_iff_eq] at hslash
    rcases hslash with rfl | rfl
    all_goals cases h _ List.mem_cons_self
  unfold read
  rw [hclean, hsplit]
  dsimp only
  rw [if_neg (by decide), if_pos (by decide), hslashes]
  exact readAuthority_host hne h

theorem IsHostName.read_ofName {ascii : Text} (h : IsHostName name ascii) :
    Url.read (ofName name) = .ok (frontPage (.name ascii)) := by
  rw [Url.read_ofName h.ne_nil h.plain, h.read]
  rfl

theorem isPlain_ofNat : ∀ i : Fin 128, isForbidden (Char.ofNat i.val) = false →
    Char.ofNat i.val ≠ '%' ∧ Host.isDelimiter (Char.ofNat i.val) = false ∧
    isAscii (Char.ofNat i.val).toLower = true ∧ isForbidden (Char.ofNat i.val).toLower = false := by
  decide +kernel

/-- What an ASCII name may hold has no meaning of its own in a URL, in letters of either case. -/
theorem of_isForbidden {c : Char} (hascii : isAscii c = true) (h : isForbidden c = false) :
    c ≠ '%' ∧ Host.isDelimiter c = false ∧ isAscii c.toLower = true ∧
      isForbidden c.toLower = false := by
  have hchar : Char.ofNat c.toNat = c := Char.ofNat_toNat c
  have hplain := isPlain_ofNat ⟨c.toNat, of_decide_eq_true hascii⟩
  rw [hchar] at hplain
  exact hplain h

section Ascii

variable (hascii : ∀ c ∈ name, isAscii c = true) (hallowed : ∀ c ∈ name, isForbidden c = false)
include hascii hallowed

theorem toAscii?_of_isAscii
    (hencoded : ∀ label ∈ Text.split '.' name.lower, isEncoded label = false) :
    Idna.toAscii? name = some name.lower := by
  have hsmall : name.lower.all isAscii = true := by
    simp only [Text.lower, List.all_map, List.all_eq_true]
    exact fun c hc => (of_isForbidden (hascii c hc) (hallowed c hc)).2.2.1
  have hlabels : (Text.split '.' name.lower).any isEncoded = false :=
    List.any_eq_false.mpr fun label hlabel => by simp [hencoded label hlabel]
  have hforbidden : name.lower.any isForbidden = false := by
    simp only [Text.lower, List.any_map, List.any_eq_false]
    exact fun c hc => by simp [(of_isForbidden (hascii c hc) (hallowed c hc)).2.2.2]
  simp only [Idna.toAscii?, hsmall, hlabels, hforbidden]
  rfl

/-- A plain name is a host name, in small letters. -/
theorem isHostName_of_isAscii (hne : name ≠ [])
    (hencoded : ∀ label ∈ Text.split '.' name.lower, isEncoded label = false)
    (hnumber : Host.endsInNumber name.lower = false) : IsHostName name name.lower where
  plain c hc := (of_isForbidden (hascii c hc) (hallowed c hc)).2.1
  read := by
    have hunescaped : Percent.decode (Utf8.encode name) = Utf8.encode name := by
      refine Percent.decode_of_not_mem fun b hb => ?_
      obtain ⟨c, hc, hb⟩ := List.mem_flatMap.mp hb
      exact Percent.ne_of_mem_encodeChar (of_isForbidden (hascii c hc) (hallowed c hc)).1 hb
    rw [Host.ofDomain, hunescaped, Utf8.decode?_encode, Option.bind_some,
      toAscii?_of_isAscii hascii hallowed hencoded]
    split
    · cases ‹some name.lower = none›
    · rename_i hempty
      exact absurd (List.map_eq_nil_iff.mp (Option.some.inj hempty)) hne
    · rename_i hsome
      cases hsome
      rw [if_neg (by simp [hnumber])]

end Ascii

end MediaPerimeter.Url
