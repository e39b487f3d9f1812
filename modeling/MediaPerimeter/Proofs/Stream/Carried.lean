import MediaPerimeter.Proofs.Stream.Rebuilt
import MediaPerimeter.Proofs.Text.Spelling

/-!
# What rebuilding carries over

The text of a rebuilt URL is the text that was given, with each component of the credentials escaped
and the port written as its value. An escaped component has only characters that delimit nothing,
and it stands for the same bytes as the one that was given, whether these are UTF-8 or not.
-/
namespace MediaPerimeter.StreamUrl

open Text (part)

inductive IsComponent : Text → Prop
  | done : IsComponent []
  | kept {c : Char} {t} (hc : c.isAlphanum = true ∨ c ∈ "-_.~$&+,;=".toList)
      (more : IsComponent t) : IsComponent (c :: t)
  | escape {a b : Char} {t} (ha : a ∈ "0123456789ABCDEF".toList)
      (hb : b ∈ "0123456789ABCDEF".toList) (more : IsComponent t) :
      IsComponent ('%' :: a :: b :: t)

/-- The bytes of a component that was given: its escapes are read if every `%` begins one. -/
def Denotes (given : Text) (bs : Bytes) : Prop :=
  Percent.Spells given bs ∨ ((∀ bs', ¬ Percent.Spells given bs') ∧ bs = Utf8.encode given)

structure Escapes (given written : Text) : Prop where
  form : IsComponent written
  means : ∀ bs, Percent.Spells written bs ↔ Denotes given bs

theorem isComponent_encode (bs : Bytes) : IsComponent (Percent.encode keptInUserinfo bs) := by
  have hkept : ∀ i : Fin 256, keptInUserinfo (.ofNat i.val) = true →
      (Char.ofNat i.val).isAlphanum = true ∨ Char.ofNat i.val ∈ "-_.~$&+,;=".toList := by
    decide +kernel
  have hcapital : ∀ i : Fin 16, Hex.capital i.val ∈ "0123456789ABCDEF".toList := by decide
  induction bs with
  | nil => exact .done
  | cons b bs ih =>
    have hb := UInt8.toNat_lt b
    rw [Percent.encode, List.flatMap_cons]
    split
    · rename_i hkeep
      have hchar := hkept ⟨b.toNat, hb⟩
      rw [UInt8.ofNat_toNat] at hchar
      exact .kept (hchar hkeep) ih
    · have hhigh := hcapital ⟨b.toNat / 16, by omega⟩
      have hlow := hcapital ⟨b.toNat % 16, by omega⟩
      exact .escape hhigh hlow ih

/-- The scanner of escapes and their reader agree on what an escape is. -/
theorem escapes_escapeComponent (t : Text) : Escapes t (escapeComponent t) := by
  refine ⟨isComponent_encode _, fun bs => ?_⟩
  have hwritten := Percent.spells_encode plain_keptInUserinfo
    (if Percent.isEscaped (Utf8.encode t) then Percent.decode (Utf8.encode t) else Utf8.encode t)
  have hmeans : Percent.Spells (escapeComponent t) bs ↔ bs =
      if Percent.isEscaped (Utf8.encode t) then Percent.decode (Utf8.encode t)
      else Utf8.encode t := by
    constructor
    · intro h
      exact h.unique hwritten
    · rintro rfl
      exact hwritten
  rw [hmeans, Denotes]
  by_cases hescaped : Percent.isEscaped (Utf8.encode t) = true
  · obtain ⟨given, hgiven⟩ := Percent.isEscaped_iff.mp hescaped
    rw [if_pos hescaped, hgiven.decode_eq]
    constructor
    · rintro rfl
      exact .inl hgiven
    · rintro (h | ⟨hnone, -⟩)
      · exact h.unique hgiven
      · exact absurd hgiven (hnone given)
  · have hnone : ∀ bs', ¬ Percent.Spells t bs' :=
      fun bs' h => hescaped (Percent.isEscaped_iff.mpr ⟨bs', h⟩)
    rw [if_neg hescaped]
    constructor
    · intro h
      exact .inr ⟨hnone, h⟩
    · rintro (h | ⟨-, h⟩)
      · exact absurd h (hnone bs)
      · exact h

/-- Credentials as they were given, and what is written for the name and the password. The first
colon ends the name. -/
inductive LoginEscapes : Option Text → Option Text → Option Text → Prop
  | absent : LoginEscapes none none none
  | named {info name : Text} (hcolon : ':' ∉ info) (hname : Escapes info name) :
      LoginEscapes (some info) (some name) none
  | both {before after name password : Text} (hcolon : ':' ∉ before) (hname : Escapes before name)
      (hpassword : Escapes after password) :
      LoginEscapes (some (before ++ ':' :: after)) (some name) (some password)

inductive PortDenotes : Option Text → Option Nat → Prop
  | absent : PortDenotes none none
  | digits {given ds : Text} (hsign : given = ds ∨ given = '+' :: ds) (hne : ds ≠ [])
      (hds : ∀ c ∈ ds, c.isDigit = true) : PortDenotes (some given) (some (Decimal.value ds))

theorem Escaped.loginEscapes {info name password : Option Text} (h : Escaped info name password) :
    LoginEscapes info name password := by
  cases h with
  | absent => exact .absent
  | named hcolon => exact .named hcolon (escapes_escapeComponent _)
  | both hcolon after =>
    exact .both hcolon (escapes_escapeComponent _) (escapes_escapeComponent after)

theorem PortRead.portDenotes {q : Option Text} {port : Option Nat} (h : PortRead q port) :
    PortDenotes q port := by
  cases h with
  | absent => exact .absent
  | present h =>
    obtain ⟨ds, hsign, hne, hds, rfl, -⟩ := Decimal.readUpTo?_eq_some_iff.mp h
    exact .digits hsign hne hds

/-- The text that was given and the text that is written, part by part. Scheme, host and tail are
the same in both; the credentials are escaped, and the port is written as its value. -/
structure Carries (raw : Text) (u : StreamUrl) (info port : Option Text) : Prop where
  given : raw.trim = u.scheme ++ "://".toList ++
    (ended info ++ (u.host ++ (part ':' port ++ u.tail)))
  written : u.text = u.scheme ++ "://".toList ++ (ended (login u.username u.password) ++
    (u.host ++ (part ':' (u.port.map Decimal.text) ++ u.tail)))
  login : LoginEscapes info u.username u.password
  port : PortDenotes port u.port

/-- Rebuilding moves nothing and loses nothing. -/
theorem rebuild_carries {raw : Text} {u : StreamUrl} (h : rebuild raw = .ok u) :
    ∃ info port, Carries raw u info port := by
  obtain ⟨rest, d, hostPort, hu⟩ := Rebuilt.of_rebuild h
  obtain ⟨port, hhostPort, -, -, -, hport⟩ := readHostPort_eq_ok_iff.mp hu.reads
  refine ⟨d.userinfo, port, ?_, ?_, hu.escaped.loginEscapes, hport.portDenotes⟩
  · rw [hu.trim_eq, hu.divided.rest_eq, hhostPort, hu.tail_text]
    simp
  · rw [StreamUrl.text, authority_eq, written]
    simp

/-- A name with a `%` that begins no escape, a password with a byte that is no UTF-8, and a port
with a sign. -/
theorem rebuild_carries_of_camera :
    rebuild " rtmp://cam%zz:%ff@?@host:+080/x?a@b".toList = .ok ⟨"rtmp".toList,
      some "cam%25zz".toList, some "%FF%40%3F".toList, "host".toList, some 80, "/x".toList,
      some "a@b".toList, none⟩ ∧
    ∃ info port, Carries " rtmp://cam%zz:%ff@?@host:+080/x?a@b".toList ⟨"rtmp".toList,
      some "cam%25zz".toList, some "%FF%40%3F".toList, "host".toList, some 80, "/x".toList,
      some "a@b".toList, none⟩ info port := by
  have h : rebuild " rtmp://cam%zz:%ff@?@host:+080/x?a@b".toList = .ok ⟨"rtmp".toList,
      some "cam%25zz".toList, some "%FF%40%3F".toList, "host".toList, some 80, "/x".toList,
      some "a@b".toList, none⟩ := by
    decide +kernel
  exact ⟨h, rebuild_carries h⟩

end MediaPerimeter.StreamUrl
