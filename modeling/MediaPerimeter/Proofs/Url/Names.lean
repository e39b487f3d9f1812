import MediaPerimeter.Proofs.Address.Characters
import MediaPerimeter.Proofs.Outcome
import MediaPerimeter.Proofs.Text.Cut
import MediaPerimeter.Url.Reader

/-!
# Names in URLs

The host of a URL of the web is an address or a name, and no name is the text of an address: a text
that ends in a number is read as a version 4 address or not at all, and no name holds a colon.
-/
namespace MediaPerimeter

open Outcome

theorem Idna.isForbidden_of_toAscii? {name ascii : Text} (h : toAscii? name = some ascii) :
    ∀ c ∈ ascii, isForbidden c = false := by
  have hany : ascii.any isForbidden = false := by
    unfold toAscii? at h
    dsimp only at h
    split at h
    · split at h
      · cases h
      · rename_i hsmall
        cases h
        simpa using hsmall
    · simp only [encodeDomain?, Option.bind_eq_bind, Option.bind_eq_some_iff] at h
      obtain ⟨mapped, -, texts, -, h⟩ := h
      split at h
      · cases h
      split at h
      · cases h
      split at h
      · cases h
      · rename_i hwritten
        cases h
        simpa using hwritten
  simpa using hany

namespace Url

theorem Host.endsInNumber_of_digits {front ds : Text} (hne : ds ≠ [])
    (hds : ∀ c ∈ ds, c.isDigit = true) : endsInNumber (front ++ '.' :: ds) = true := by
  have hpoint : '.' ∉ ds := fun hc => absurd (hds '.' hc) (by decide)
  have hlast : (Text.split '.' (front ++ '.' :: ds)).getLast? = some ds := by
    rw [Text.split_append, Text.split_of_not_mem hpoint, List.getLast?_concat]
  have hlabels : labels (front ++ '.' :: ds) = Text.split '.' (front ++ '.' :: ds) := by
    rw [labels, if_neg]
    rintro ⟨-, hempty⟩
    rw [hlast] at hempty
    exact hne (Option.some.inj hempty)
  rw [endsInNumber, hlabels, hlast]
  simp [hne, List.all_eq_true.mpr hds]

theorem Host.ofText?_of_ofDomain {t name : Text} (h : ofDomain t = .ok (.name name)) :
    Address.ofText? name = none := by
  unfold ofDomain at h
  split at h
  · cases h
  · cases h
  · rename_i domain _ hascii
    split at h
    · split at h <;> cases h
    · rename_i hnumber
      cases h
      obtain ⟨unescaped, -, hascii⟩ := Option.bind_eq_some_iff.mp hascii
      refine Option.eq_none_iff_forall_ne_some.mpr fun a ha => ?_
      rcases Address.ends_or_colon ha with ⟨front, ds, rfl, hne, hds⟩ | hcolon
      · exact hnumber (endsInNumber_of_digits hne hds)
      · exact absurd (Idna.isForbidden_of_toAscii? hascii ':' hcolon) (by decide)

theorem of_readAuthority {scheme t : Text} {u : Url} (h : readAuthority scheme t = .ok u) :
    u.scheme = scheme ∧
      ∃ t host, Host.ofText (isSpecial scheme) t = .ok host ∧ u.host = some host := by
  unfold readAuthority at h
  dsimp only at h
  split at h
  · cases h
  obtain ⟨host, hhost, h⟩ := bind_eq_ok_iff.mp h
  split at h
  · cases h
    exact ⟨rfl, _, host, hhost, rfl⟩
  · obtain ⟨_, -, h⟩ := bind_eq_ok_iff.mp h
    cases h
    exact ⟨rfl, _, host, hhost, rfl⟩

theorem scheme_of_readFile {scheme t : Text} {u : Url} (h : readFile scheme t = .ok u) :
    u.scheme = scheme := by
  unfold readFile at h
  dsimp only at h
  split at h
  · split at h
    · split at h
      · cases h
        rfl
      · obtain ⟨host, -, h⟩ := bind_eq_ok_iff.mp h
        cases h
        rfl
    · cases h
      rfl
  · cases h
    rfl

/-- The host of a URL of the web is read as a domain or stands in brackets. -/
theorem exists_host {raw : Text} {u : Url} (h : read raw = .ok u) (hweb : u.isWeb = true) :
    ∃ t host, Host.ofText true t = .ok host ∧ u.host = some host := by
  have hscheme : u.scheme ≠ "file".toList ∧ isSpecial u.scheme = true := by
    simp only [isWeb, Bool.or_eq_true, beq_iff_eq] at hweb
    rcases hweb with hs | hs <;> rw [hs] <;> decide
  unfold read at h
  split at h
  · cases h
  · rename_i scheme t hsplit
    dsimp only at h
    split at h
    · rename_i hfile
      exact absurd ((scheme_of_readFile h).trans hfile) hscheme.1
    · split at h
      · rename_i hspecial
        obtain ⟨-, hhost⟩ := of_readAuthority h
        rwa [hspecial] at hhost
      · rename_i hspecial
        -- Every other URL keeps its scheme, which is not special.
        have hkept : u.scheme = scheme.lower := by
          split at h
          · exact (of_readAuthority h).1
          · cases h
            rfl
          · cases h
            rfl
        exact absurd (hkept ▸ hscheme.2) hspecial

/-- A name in a URL of the web is not the text of an address. -/
theorem ofText?_of_name {raw name : Text} {u : Url} (h : read raw = .ok u) (hweb : u.isWeb = true)
    (hhost : u.host = some (.name name)) : Address.ofText? name = none := by
  obtain ⟨t, host, hread, hsome⟩ := exists_host h hweb
  cases hhost.symm.trans hsome
  unfold Host.ofText at hread
  split at hread
  · unfold Host.ofBracketed at hread
    split at hread <;> cases hread
  · exact Host.ofText?_of_ofDomain hread

end Url
end MediaPerimeter
