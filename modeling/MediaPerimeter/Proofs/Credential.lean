import MediaPerimeter.Credential
import MediaPerimeter.Proofs.Text.Utf8
import MediaPerimeter.Proofs.Token.Pinned

/-!
# The decision on a credential

Where a credential comes from and what comes of it are relations, with one case for each thing that
can be wrong. The authentication of a caller decides just these relations, and a header that says
anything keeps what comes apart from it out of the decision.
-/
namespace MediaPerimeter.Credential

def IsVisible (value : Bytes) : Prop := ∀ b ∈ value, b = 0x09 ∨ (0x20 ≤ b ∧ b ≤ 0x7e)

def scheme : Text := "Bearer ".toList

theorem isVisible_append {a b : Bytes} : IsVisible (a ++ b) ↔ IsVisible a ∧ IsVisible b :=
  List.forall_mem_append

theorem IsVisible.lt {value : Bytes} (h : IsVisible value) {b : UInt8} (hb : b ∈ value) :
    b.toNat < 128 := by
  rcases h b hb with rfl | ⟨-, hle⟩
  · decide
  · exact Nat.lt_of_le_of_lt (UInt8.le_iff_toNat_le.mp hle) (by decide)

theorem all_eq_true_iff {value : Bytes} :
    (value.all fun b => b == 0x09 || (0x20 ≤ b && b < 0x7f)) = true ↔ IsVisible value := by
  have hlast : ∀ b : UInt8, b < 0x7f ↔ b ≤ 0x7e := by
    intro b
    rw [UInt8.lt_iff_toNat_lt, UInt8.le_iff_toNat_le]
    exact Nat.lt_succ_iff
  simp [IsVisible, hlast]

theorem isVisible_scheme : IsVisible (Utf8.encode scheme) := all_eq_true_iff.mp (by decide)

theorem encode_chars {value : Bytes} (h : IsVisible value) :
    Utf8.encode (value.map fun b => Char.ofNat b.toNat) = value := by
  induction value with
  | nil => rfl
  | cons b rest ih =>
    have hrest : IsVisible rest := fun c hc => h c (List.mem_cons_of_mem b hc)
    rw [List.map_cons, Percent.encode_kept (h.lt List.mem_cons_self), ih hrest]

theorem headerText?_eq_some_iff {value : Bytes} {t : Text} :
    headerText? value = some t ↔ IsVisible value ∧ value = Utf8.encode t := by
  unfold headerText?
  constructor
  · intro h
    split at h
    · rename_i hall
      have hvisible := all_eq_true_iff.mp hall
      cases h
      exact ⟨hvisible, (encode_chars hvisible).symm⟩
    · cases h
  · rintro ⟨hvisible, hvalue⟩
    have hsame := (encode_chars hvisible).trans hvalue
    rw [if_pos (all_eq_true_iff.mpr hvisible), Utf8.encode_injective hsame]

theorem headerText?_eq_none_iff {value : Bytes} : headerText? value = none ↔ ¬ IsVisible value := by
  rw [← all_eq_true_iff, headerText?]
  split <;> simp_all

theorem bearer?_eq_some_iff {t credential : Text} :
    bearer? t = some credential ↔ t = scheme ++ credential := by
  have hread : bearer? t = if scheme <+: t then some (t.drop scheme.length) else none := rfl
  rw [hread]
  constructor
  · intro h
    split at h
    · rename_i hfront
      cases h
      exact (List.prefix_iff_eq_append.mp hfront).symm
    · cases h
  · rintro rfl
    rw [if_pos (List.prefix_append scheme credential), List.drop_left]

/-- What a header bears: its word and the credential, both readable. -/
def Bears (value : Bytes) (credential : Text) : Prop :=
  IsVisible value ∧ value = Utf8.encode scheme ++ Utf8.encode credential

theorem bears_iff {value : Bytes} {credential : Text} :
    (headerText? value).bind bearer? = some credential ↔ Bears value credential := by
  rw [Option.bind_eq_some_iff]
  constructor
  · rintro ⟨t, ht, hcredential⟩
    obtain ⟨hvisible, rfl⟩ := headerText?_eq_some_iff.mp ht
    rw [bearer?_eq_some_iff.mp hcredential] at hvisible ⊢
    exact ⟨hvisible, Utf8.encode_append scheme credential⟩
  · rintro ⟨hvisible, rfl⟩
    have hwritten := Utf8.encode_append scheme credential
    exact ⟨scheme ++ credential, headerText?_eq_some_iff.mpr ⟨hvisible, hwritten.symm⟩,
      bearer?_eq_some_iff.mpr rfl⟩

/-- A readable value that begins with the word bears a credential. -/
theorem exists_bears {value : Bytes} (hvisible : IsVisible value)
    (hword : Utf8.encode scheme <+: value) : ∃ credential, Bears value credential := by
  obtain ⟨rest, rfl⟩ := hword
  have hrest : IsVisible rest := (isVisible_append.mp hvisible).2
  exact ⟨rest.map fun b => Char.ofNat b.toNat, hvisible, by rw [encode_chars hrest]⟩

theorem Bears.ne_nil {value : Bytes} {credential : Text} (h : Bears value credential) :
    value ≠ [] := by
  rintro rfl
  obtain ⟨hscheme, -⟩ := List.append_eq_nil_iff.mp h.2.symm
  exact absurd hscheme (by decide)

/-- There is no header, or the first one is empty. -/
def IsSilent (headers : Headers) : Prop := ∀ value ∈ headers.head?, value = []

inductive Picks (elsewhere : Option Text) : Headers → Except Fault Text → Prop
  | borne {value rest credential} (h : Bears value credential) :
      Picks elsewhere (value :: rest) (.ok credential)
  | unreadable {value rest} (hsome : value ≠ []) (h : ¬ IsVisible value) :
      Picks elsewhere (value :: rest) (.error .badFormat)
  | unnamed {value rest} (hsome : value ≠ []) (h : ¬ Utf8.encode scheme <+: value) :
      Picks elsewhere (value :: rest) (.error .badFormat)
  | apart {headers credential} (hsilent : IsSilent headers) (hsome : credential ≠ [])
      (h : elsewhere = some credential) : Picks elsewhere headers (.ok credential)
  | missing {headers} (hsilent : IsSilent headers) (h : ∀ credential ∈ elsewhere, credential = []) :
      Picks elsewhere headers (.error .noCredential)

theorem find_cons {value : Bytes} (hsome : value ≠ []) (elsewhere : Option Text)
    (rest : Headers) : find elsewhere (value :: rest) =
      ((headerText? value).bind bearer?).elim (.error .badFormat) .ok := by
  have hfilter : (some value).filter (· != []) = some value := by simp [Option.filter, hsome]
  simp only [find, List.head?_cons, hfilter]
  cases (headerText? value).bind bearer? <;> rfl

theorem find_of_isSilent {headers : Headers} (hsilent : IsSilent headers)
    (elsewhere : Option Text) : find elsewhere headers =
      (elsewhere.filter (· != [])).elim (.error .noCredential) .ok := by
  have hfilter : headers.head?.filter (· != []) = none := by
    rw [Option.filter_eq_none_iff]
    intro value hvalue
    simp [hsilent value hvalue]
  simp only [find, hfilter]
  cases elsewhere.filter (· != []) <;> rfl

theorem Picks.find_eq {elsewhere : Option Text} {headers : Headers} {result : Except Fault Text}
    (h : Picks elsewhere headers result) : find elsewhere headers = result := by
  cases h with
  | borne h => rw [find_cons h.ne_nil, bears_iff.mpr h, Option.elim_some]
  | unreadable hsome h =>
    rw [find_cons hsome, headerText?_eq_none_iff.mpr h, Option.bind_none, Option.elim_none]
  | unnamed hsome h =>
    have hnone : ∀ credential, ¬ Bears _ credential := fun credential hbears =>
      h ⟨Utf8.encode credential, hbears.2.symm⟩
    rw [find_cons hsome, Option.eq_none_iff_forall_ne_some.mpr fun credential =>
      mt bears_iff.mp (hnone credential), Option.elim_none]
  | apart hsilent hsome h =>
    rw [find_of_isSilent hsilent, h]
    simp [Option.filter, hsome]
  | missing hsilent h =>
    have hfilter : elsewhere.filter (· != []) = none := by
      rw [Option.filter_eq_none_iff]
      intro credential hcredential
      simp [h credential hcredential]
    rw [find_of_isSilent hsilent, hfilter, Option.elim_none]

/-- One of the cases always applies. -/
theorem exists_picks (elsewhere : Option Text) (headers : Headers) :
    ∃ result, Picks elsewhere headers result := by
  by_cases hsilent : IsSilent headers
  · by_cases hnone : ∀ credential ∈ elsewhere, credential = []
    · exact ⟨_, .missing hsilent hnone⟩
    · push Not at hnone
      obtain ⟨credential, hcredential, hsome⟩ := hnone
      exact ⟨_, .apart hsilent hsome hcredential⟩
  · cases headers with
    | nil => exact absurd nofun hsilent
    | cons value rest =>
      have hsome : value ≠ [] := by
        rintro rfl
        exact hsilent (by simp [IsSilent])
      by_cases hvisible : IsVisible value
      · by_cases hword : Utf8.encode scheme <+: value
        · obtain ⟨credential, h⟩ := exists_bears hvisible hword
          exact ⟨_, .borne h⟩
        · exact ⟨_, .unnamed hsome hword⟩
      · exact ⟨_, .unreadable hsome hvisible⟩

def Accepts (secret credential : Text) (now : Int) : Prop :=
  credential ≠ [] ∧
    (sha256.hash (Utf8.encode credential) = sha256.hash (Utf8.encode secret) ∨
      ∃ claims, Token.verify secret credential .hs256 now = .ok claims)

inductive Decides (secret : Text) (elsewhere : Option Text) (headers : Headers) (now : Int) :
    Except Fault Unit → Prop
  | unset (h : secret = []) : Decides secret elsewhere headers now (.error .noSecretConfigured)
  | unpicked {fault} (hset : secret ≠ []) (h : Picks elsewhere headers (.error fault)) :
      Decides secret elsewhere headers now (.error fault)
  | accepted {credential} (hset : secret ≠ []) (hpick : Picks elsewhere headers (.ok credential))
      (h : Accepts secret credential now) : Decides secret elsewhere headers now (.ok ())
  | refused {credential} (hset : secret ≠ []) (hpick : Picks elsewhere headers (.ok credential))
      (h : ¬ Accepts secret credential now) :
      Decides secret elsewhere headers now (.error .invalidToken)

theorem isAccepted_iff {secret credential : Text} {now : Int} :
    isAccepted secret credential now = true ↔ Accepts secret credential now := by
  have hverify : (Token.verify secret credential .hs256 now).toOption.isSome = true ↔
      ∃ claims, Token.verify secret credential .hs256 now = .ok claims := by
    simp only [Option.isSome_iff_exists, Outcome.toOption_eq_some_iff]
  rw [isAccepted, Bool.and_eq_true, Bool.or_eq_true, hverify, bne_iff_ne, sameText, beq_iff_eq,
    Accepts]

section

variable {secret : Text} {elsewhere : Option Text} {headers : Headers} {now : Int}

theorem authenticate_of_error (hset : secret ≠ []) {fault : Fault}
    (h : find elsewhere headers = .error fault) :
    authenticate secret elsewhere headers now = .error fault := by
  rw [authenticate, if_neg hset, h]

theorem authenticate_of_ok (hset : secret ≠ []) {credential : Text}
    (h : find elsewhere headers = .ok credential) :
    authenticate secret elsewhere headers now =
      if isAccepted secret credential now then .ok () else .error .invalidToken := by
  rw [authenticate, if_neg hset, h]

theorem Decides.authenticate_eq {result : Except Fault Unit}
    (h : Decides secret elsewhere headers now result) :
    authenticate secret elsewhere headers now = result := by
  cases h with
  | unset h => rw [authenticate, if_pos h]
  | unpicked hset h => exact authenticate_of_error hset h.find_eq
  | accepted hset hpick h =>
    rw [authenticate_of_ok hset hpick.find_eq, if_pos (isAccepted_iff.mpr h)]
  | refused hset hpick h =>
    rw [authenticate_of_ok hset hpick.find_eq, if_neg (mt isAccepted_iff.mp h)]

theorem exists_decides (secret : Text) (elsewhere : Option Text) (headers : Headers) (now : Int) :
    ∃ result, Decides secret elsewhere headers now result := by
  by_cases hset : secret = []
  · exact ⟨_, .unset hset⟩
  · obtain ⟨picked, hpick⟩ := exists_picks elsewhere headers
    cases picked with
    | error fault => exact ⟨_, .unpicked hset hpick⟩
    | ok credential =>
      by_cases haccepts : Accepts secret credential now
      · exact ⟨_, .accepted hset hpick haccepts⟩
      · exact ⟨_, .refused hset hpick haccepts⟩

/-- A caller is told just what the relation says, and nothing that comes apart from a header that
says anything has a part in it. -/
theorem authenticate_decides (secret : Text) (elsewhere : Option Text) (headers : Headers)
    (now : Int) :
    (∀ result, authenticate secret elsewhere headers now = result ↔
      Decides secret elsewhere headers now result) ∧
    (∀ value rest, headers = value :: rest → value ≠ [] → ∀ elsewhere',
      authenticate secret elsewhere' headers now = authenticate secret elsewhere headers now) := by
  constructor
  · intro result
    constructor
    · rintro rfl
      obtain ⟨result, h⟩ := exists_decides secret elsewhere headers now
      rwa [h.authenticate_eq]
    · exact Decides.authenticate_eq
  · rintro value rest rfl hsome elsewhere'
    rw [authenticate, authenticate, find_cons hsome, find_cons hsome]

/-- A header that bears another scheme is refused, though the secret itself is in the query. -/
theorem authenticate_decides_of_basic :
    authenticate "s".toList (some "s".toList) [Utf8.encode "Basic s".toList] 0 =
      authenticate "s".toList none [Utf8.encode "Basic s".toList] 0 ∧
    authenticate "s".toList none [Utf8.encode "Basic s".toList] 0 = .error .badFormat := by
  obtain ⟨hdecides, hheader⟩ :=
    authenticate_decides "s".toList none [Utf8.encode "Basic s".toList] 0
  have hsome : Utf8.encode "Basic s".toList ≠ [] := by decide
  have hword : ¬ Utf8.encode scheme <+: Utf8.encode "Basic s".toList := by decide
  exact ⟨hheader _ _ rfl hsome (some "s".toList),
    (hdecides _).mpr (.unpicked (by decide) (.unnamed hsome hword))⟩

end

end MediaPerimeter.Credential
