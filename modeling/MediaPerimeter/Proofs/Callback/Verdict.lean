import MediaPerimeter.Callback.Check
import MediaPerimeter.Proofs.Address.Canonical
import MediaPerimeter.Proofs.Net.Hop

/-!
# The verdict on a callback URL

What the check says of a URL, one condition after the other: the first that fails is the one that is
told. A host that is an address is judged without a lookup, in whatever notation the URL has it, and
also where it is a name only for the dots at its end. Any other name is looked up once.
-/
namespace MediaPerimeter

open Net (Action Log Network lookedUp)

namespace Callback

/-- The host of the URL is the address, if need be without the dots at its end. -/
inductive Denotes (u : Url) : Address → Prop
  | literal {h a} (hhost : u.host = some h) (ha : h.address? = some a) : Denotes u a
  | dotted {t a} (hhost : u.host = some (.name t)) (ha : Address.ofText? (bareHost u) = some a) :
      Denotes u a

structure Reaches (raw : Text) (u : Url) : Prop where
  nonempty : raw.trim ≠ []
  read : Url.read raw.trim = .ok u
  web : u.isWeb = true
  host : bareHost u ≠ []
  foreign : (bareHost u).lower ∉ localNames

/-- The result of the check after the log, and what it adds to the log. -/
inductive Verdict (n : Network) (log : Log) (raw : Text) : Except Fault Unit → Log → Prop
  | empty (h : raw.trim = []) : Verdict n log raw (.error .empty) []
  | malformed {f} (hne : raw.trim ≠ []) (h : Url.read raw.trim = .error f) :
      Verdict n log raw (.error (.malformed f.message)) []
  | unsupportedScheme {u} (hne : raw.trim ≠ []) (hread : Url.read raw.trim = .ok u)
      (h : u.isWeb = false) : Verdict n log raw (.error (.unsupportedScheme u.scheme)) []
  | missingHost {u} (hne : raw.trim ≠ []) (hread : Url.read raw.trim = .ok u)
      (hweb : u.isWeb = true) (h : bareHost u = []) : Verdict n log raw (.error .missingHost) []
  | loopbackAlias {u} (hne : raw.trim ≠ []) (hread : Url.read raw.trim = .ok u)
      (hweb : u.isWeb = true) (hhost : bareHost u ≠ []) (h : (bareHost u).lower ∈ localNames) :
      Verdict n log raw (.error (.loopbackAlias (bareHost u))) []
  | guardedAddress {u a} (reaches : Reaches raw u) (denotes : Denotes u a)
      (h : a.isPublic = false) :
      Verdict n log raw (.error (.unsafeDestination ⟨a.reach, a.text⟩)) []
  | publicAddress {u a} (reaches : Reaches raw u) (denotes : Denotes u a)
      (h : a.isPublic = true) : Verdict n log raw (.ok ()) []
  | unresolvable {u told reason} (reaches : Reaches raw u) (name : ∀ a, ¬ Denotes u a)
      (htold : n.addresses (bareHost u) (log.lookups (bareHost u)) = told)
      (h : told = .error reason ∨ told = .ok [] ∧ reason = "no addresses") :
      Verdict n log raw (.error (.unresolvable (bareHost u) reason)) [.lookup (bareHost u) told]
  | guardedName {u as a} (reaches : Reaches raw u) (name : ∀ a, ¬ Denotes u a)
      (htold : n.addresses (bareHost u) (log.lookups (bareHost u)) = .ok as)
      (h : as.find? (!·.isPublic) = some a) :
      Verdict n log raw (.error (.unsafeDestination ⟨a.reach, a.text⟩))
        [.lookup (bareHost u) (.ok as)]
  | publicName {u as} (reaches : Reaches raw u) (name : ∀ a, ¬ Denotes u a)
      (htold : n.addresses (bareHost u) (log.lookups (bareHost u)) = .ok as) (hne : as ≠ [])
      (h : ∀ a ∈ as, a.isPublic = true) :
      Verdict n log raw (.ok ()) [.lookup (bareHost u) (.ok as)]

variable {raw : Text} {u : Url} {a : Address}

theorem withoutDots_eq_self {t : Text} (h : ∀ c ∈ t.getLast?, c ≠ '.') :
    (t.reverse.dropWhile (· == '.')).reverse = t := by
  have hhead : ∀ c ∈ t.reverse.head?, (c == '.') = false := by
    rw [List.head?_reverse]
    exact fun c hc => beq_eq_false_iff_ne.mpr (h c hc)
  rw [Text.dropWhile_eq_self hhead, List.reverse_reverse]

theorem bareHost_v4 {ip : IPv4} (h : u.host = some (.v4 ip)) : bareHost u = ip.text := by
  rw [bareHost, h]
  refine withoutDots_eq_self fun c hc => ?_
  have hlast : Decimal.text ip.d.toNat <:+ ip.text :=
    (List.suffix_cons '.' _).trans (List.suffix_append _ _)
  rw [Url.Host.bareText, Text.getLast?_of_suffix hlast (Decimal.text_ne_nil _)] at hc
  rintro rfl
  exact absurd (Decimal.isDigit_of_mem_text (List.mem_of_getLast? hc)) (by decide)

theorem bareHost_v6 {ip : IPv6} (h : u.host = some (.v6 ip)) :
    bareHost u = IPv6.compressed ip.groups := by
  rw [bareHost, h]
  refine withoutDots_eq_self fun c hc => ?_
  rintro rfl
  exact IPv6.point_not_mem_compressed _ (List.mem_of_getLast? hc)

/-- The text of a host is read as an address just where the host is one. -/
theorem ofText?_bareHost_iff : Address.ofText? (bareHost u) = some a ↔ Denotes u a := by
  constructor
  · intro h
    cases hhost : u.host with
    | none =>
      rw [bareHost, hhost] at h
      cases h
    | some host =>
      cases host with
      | name t => exact .dotted hhost h
      | v4 ip =>
        rw [bareHost_v4 hhost, Address.ofText?_v4] at h
        exact .literal hhost h
      | v6 ip =>
        rw [bareHost_v6 hhost, Address.ofText?_v6] at h
        exact .literal hhost h
  · rintro (⟨hhost, ha⟩ | ⟨-, ha⟩)
    · rename_i host
      cases host with
      | name t => cases ha
      | v4 ip => rw [bareHost_v4 hhost, Address.ofText?_v4, ← ha]; rfl
      | v6 ip => rw [bareHost_v6 hhost, Address.ofText?_v6, ← ha]; rfl
    · exact ha

theorem ofText?_bareHost_eq_none_iff :
    Address.ofText? (bareHost u) = none ↔ ∀ a, ¬ Denotes u a := by
  simp only [Option.eq_none_iff_forall_ne_some, Ne, ofText?_bareHost_iff]

theorem Reaches.hostOf_eq (h : Reaches raw u) : hostOf raw = .ok (bareHost u) := by
  simp [hostOf, h.nonempty, h.read, h.web, h.host, h.foreign]

theorem run_check_of_error {f : Fault} (h : hostOf raw = .error f) (n : Network) (log : Log) :
    (check n raw).run log = (.error f, log ++ []) := by
  rw [check, h, List.append_nil]
  rfl

theorem Reaches.run_check (h : Reaches raw u) (n : Network) (log : Log) :
    (check n raw).run log = (approve (bareHost u) (n.told log (bareHost u)),
      log ++ lookedUp (bareHost u) (n.told log (bareHost u))) := by
  rw [check, h.hostOf_eq]
  simp only [Action.run_bind, Network.run_lookup]
  rfl

/-- An address is judged by itself, without a lookup. -/
theorem run_check_literal {host : Text} (hhost : hostOf raw = .ok host)
    (ha : Address.ofText? host = some a) (n : Network) (log : Log) :
    (check n raw).run log = (a.check.mapError .unsafeDestination, log ++ []) := by
  have hone : Address.checkAll [a] = a.check := by
    rw [Address.checkAll]
    cases a.check <;> rfl
  rw [check, hhost]
  simp only [Action.run_bind, Network.run_lookup, Network.told, lookedUp, ha, approve, hone,
    Option.isSome_some, if_true]
  rfl

theorem Reaches.run_check_denotes (h : Reaches raw u) (ha : Denotes u a) (n : Network) (log : Log) :
    (check n raw).run log = (a.check.mapError .unsafeDestination, log ++ []) :=
  run_check_literal h.hostOf_eq (ofText?_bareHost_iff.mpr ha) n log

theorem Reaches.run_check_name (h : Reaches raw u) (hname : ∀ a, ¬ Denotes u a) (n : Network)
    (log : Log) :
    let told := n.addresses (bareHost u) (log.lookups (bareHost u))
    (check n raw).run log = (approve (bareHost u) told, log ++ [.lookup (bareHost u) told]) := by
  have hread := ofText?_bareHost_eq_none_iff.mpr hname
  rw [h.run_check, Network.told, lookedUp, hread]
  rfl

theorem approve_eq_checkAll {as : List Address} (h : as ≠ []) (host : Text) :
    approve host (.ok as) = (Address.checkAll as).mapError .unsafeDestination := by
  cases as with
  | nil => exact absurd rfl h
  | cons a as => rfl

theorem Verdict.run_check {n : Network} {log new : Log} {result : Except Fault Unit}
    (h : Verdict n log raw result new) : (check n raw).run log = (result, log ++ new) := by
  cases h with
  | empty h => exact run_check_of_error (by simp [hostOf, h]) n log
  | malformed hne h => exact run_check_of_error (by simp [hostOf, hne, h]) n log
  | unsupportedScheme hne hread h => exact run_check_of_error (by simp [hostOf, hne, hread, h]) n log
  | missingHost hne hread hweb h =>
    exact run_check_of_error (by simp [hostOf, hne, hread, hweb, h]) n log
  | loopbackAlias hne hread hweb hhost h =>
    exact run_check_of_error (by simp [hostOf, hne, hread, hweb, hhost, h]) n log
  | guardedAddress reaches denotes h =>
    rw [reaches.run_check_denotes denotes, Address.check_of_not_isPublic h]
    rfl
  | publicAddress reaches denotes h =>
    rw [reaches.run_check_denotes denotes, Address.check_eq_ok_iff.mpr h]
    rfl
  | unresolvable reaches name htold h =>
    rw [reaches.run_check_name name, htold]
    rcases h with rfl | ⟨rfl, rfl⟩ <;> rfl
  | guardedName reaches name htold h =>
    have hne : _ ≠ [] := List.ne_nil_of_mem (List.mem_of_find?_eq_some h)
    rw [reaches.run_check_name name, htold, approve_eq_checkAll hne,
      Address.checkAll_eq_error_iff.mpr ⟨_, h, rfl⟩]
    rfl
  | publicName reaches name htold hne h =>
    rw [reaches.run_check_name name, htold, approve_eq_checkAll hne,
      Address.checkAll_eq_ok_iff.mpr h]
    rfl

/-- Every URL has a verdict. -/
theorem exists_verdict (n : Network) (log : Log) (raw : Text) :
    ∃ result new, Verdict n log raw result new := by
  by_cases hempty : raw.trim = []
  · exact ⟨_, _, .empty hempty⟩
  cases hread : Url.read raw.trim with
  | error f => exact ⟨_, _, .malformed hempty hread⟩
  | ok u =>
    cases hweb : u.isWeb with
    | false => exact ⟨_, _, .unsupportedScheme hempty hread hweb⟩
    | true =>
      by_cases hhost : bareHost u = []
      · exact ⟨_, _, .missingHost hempty hread hweb hhost⟩
      by_cases hlocal : (bareHost u).lower ∈ localNames
      · exact ⟨_, _, .loopbackAlias hempty hread hweb hhost hlocal⟩
      have reaches : Reaches raw u := ⟨hempty, hread, hweb, hhost, hlocal⟩
      by_cases hname : ∃ a, Denotes u a
      · obtain ⟨a, ha⟩ := hname
        cases hpublic : a.isPublic with
        | false => exact ⟨_, _, .guardedAddress reaches ha hpublic⟩
        | true => exact ⟨_, _, .publicAddress reaches ha hpublic⟩
      · have name : ∀ a, ¬ Denotes u a := not_exists.mp hname
        cases htold : n.addresses (bareHost u) (log.lookups (bareHost u)) with
        | error reason => exact ⟨_, _, .unresolvable reaches name htold (.inl rfl)⟩
        | ok as =>
          by_cases hne : as = []
          · exact ⟨_, _, .unresolvable reaches name (hne ▸ htold) (.inr ⟨rfl, rfl⟩)⟩
          cases hfind : as.find? (!·.isPublic) with
          | some a => exact ⟨_, _, .guardedName reaches name htold hfind⟩
          | none =>
            have hpublic : ∀ a ∈ as, a.isPublic = true := by simpa using hfind
            exact ⟨_, _, .publicName reaches name htold hne hpublic⟩

inductive Reordered : Net.Told → Net.Told → Prop
  | failed (reason : String) : Reordered (.error reason) (.error reason)
  | told {as bs : List Address} (h : as.Perm bs) : Reordered (.ok as) (.ok bs)

def SameAnswers (n n' : Network) : Prop :=
  ∀ name i, Reordered (n.addresses name i) (n'.addresses name i)

theorem SameAnswers.symm {n n' : Network} (hsame : SameAnswers n n') : SameAnswers n' n := by
  intro name i
  have h := hsame name i
  generalize n.addresses name i = told, n'.addresses name i = told' at h
  cases h with
  | failed reason => exact .failed reason
  | told hperm => exact .told hperm.symm

theorem Verdict.run_check_reordered {n n' : Network} {log new : Log} {result : Except Fault Unit}
    (h : Verdict n log raw result new) (hok : result = .ok ()) (hsame : SameAnswers n n') :
    ((check n' raw).run log).1 = .ok () := by
  cases h with
  | empty | malformed | unsupportedScheme | missingHost | loopbackAlias => cases hok
  | guardedAddress | unresolvable | guardedName => cases hok
  | publicAddress reaches denotes h =>
    rw [(Verdict.publicAddress reaches denotes h : Verdict n' log raw _ _).run_check]
  | publicName reaches name htold hne h =>
    rename_i u as
    have hrel := hsame (bareHost u) (log.lookups (bareHost u))
    rw [htold] at hrel
    generalize htold' : n'.addresses (bareHost u) (log.lookups (bareHost u)) = told' at hrel
    cases hrel with
    | told hperm =>
      have hne' : _ ≠ [] := fun hnil => hne (List.perm_nil.mp (hnil ▸ hperm))
      have hpublic := fun a ha => h a (hperm.mem_iff.mpr ha)
      rw [(Verdict.publicName reaches name htold' hne' hpublic).run_check]

/-- The check comes to the verdict on the URL and looks up what that says, and in which order the
addresses of an answer come does not count. -/
theorem check_verdict (n : Network) (raw : Text) (log : Log) :
    (∀ result after, (check n raw).run log = (result, after) ↔
      ∃ new, Verdict n log raw result new ∧ after = log ++ new) ∧
    ∀ n', SameAnswers n n' →
      (((check n raw).run log).1 = .ok () ↔ ((check n' raw).run log).1 = .ok ()) := by
  constructor
  · intro result after
    constructor
    · intro hrun
      obtain ⟨result', new, hverdict⟩ := exists_verdict n log raw
      cases hverdict.run_check.symm.trans hrun
      exact ⟨new, hverdict, rfl⟩
    · rintro ⟨new, hverdict, rfl⟩
      exact hverdict.run_check
  · have keeps {n n' : Network} (hsame : SameAnswers n n') (hok : ((check n raw).run log).1 = .ok ()) :
        ((check n' raw).run log).1 = .ok () := by
      obtain ⟨result, new, hverdict⟩ := exists_verdict n log raw
      rw [hverdict.run_check] at hok
      exact hverdict.run_check_reordered hok hsame
    intro n' hsame
    exact ⟨keeps hsame, keeps hsame.symm⟩

def outside : Address := .v4 ⟨8, 8, 8, 8⟩

def inside : Address := .v4 ⟨10, 0, 0, 1⟩

def answering (as : List Address) : Network where
  addresses _ _ := .ok as
  accepts _ := true
  secures _ := .secured
  reply _ := .silence

def camera : Text := " http://Cam.Test./hook ".toList

def cameraUrl : Url :=
  ⟨"http".toList, [], none, some (.name "cam.test.".toList), none, "/hook".toList, none, none⟩

theorem reaches_camera : Reaches camera cameraUrl := by
  constructor <;> decide +kernel

/-- The public address of a mixed answer does not help, in whatever place it comes. -/
theorem check_verdict_of_mixed :
    (check (answering [outside, inside]) camera).run [] =
      (.error (.unsafeDestination ⟨.privateNet, "10.0.0.1".toList⟩),
        [.lookup "cam.test".toList (.ok [outside, inside])]) ∧
    SameAnswers (answering [outside, inside]) (answering [inside, outside]) ∧
    ((check (answering [inside, outside]) camera).run []).1 ≠ .ok () := by
  have hbare : bareHost cameraUrl = "cam.test".toList := by decide +kernel
  have hname : ∀ a, ¬ Denotes cameraUrl a := ofText?_bareHost_eq_none_iff.mp (by decide +kernel)
  have hverdict : Verdict (answering [outside, inside]) [] camera
      (.error (.unsafeDestination ⟨inside.reach, inside.text⟩))
      [.lookup (bareHost cameraUrl) (.ok [outside, inside])] :=
    .guardedName reaches_camera hname rfl (by decide)
  have hsame : SameAnswers (answering [outside, inside]) (answering [inside, outside]) :=
    fun _ _ => .told (List.Perm.swap _ _ _)
  obtain ⟨hrun, horder⟩ := check_verdict (answering [outside, inside]) camera []
  have hmixed := (hrun _ _).mpr ⟨_, hverdict, rfl⟩
  refine ⟨?_, hsame, ?_⟩
  · rw [hmixed, hbare]
    rfl
  · rw [Ne, ← horder _ hsame, hmixed]
    nofun

end Callback
end MediaPerimeter
