import MediaPerimeter.Proofs.Address.Literal

/-!
# The characters of an address

A literal holds hexadecimal digits, colons and points, and nothing else. One of version 4 ends in a
number behind a point, and one of version 6 holds a colon.
-/
namespace MediaPerimeter

namespace Address

def inText (c : Char) : Bool := Hex.isDigit c || c == ':' || c == '.'

theorem inText_of_isDigit {c : Char} (h : c.isDigit = true) : inText c = true := by
  have hhex : Hex.isDigit c = true := by simp [Hex.isDigit, Hex.digit?, h]
  simp only [inText, hhex, Bool.true_or]

theorem inText_of_isHexDigit {c : Char} (h : Hex.isDigit c = true) : inText c = true := by
  simp only [inText, h, Bool.true_or]

theorem isBlank_of_inText {c : Char} (h : inText c = true) : isBlank c = false := by
  have hrange : 0x20 < c.toNat ∧ c.toNat < 0x80 := by
    simp only [inText, Bool.or_eq_true, beq_iff_eq] at h
    rcases h with (hhex | rfl) | rfl
    · have hdigit := Hex.toNat_of_isDigit hhex
      omega
    · decide
    · decide
  simp only [isBlank, Bool.or_eq_false_iff, Bool.and_eq_false_iff, decide_eq_false_iff_not,
    beq_eq_false_iff_ne]
  omega

end Address

open Address (inText)

theorem IPv4.inText_of_mem_text (ip : IPv4) : ∀ c ∈ ip.text, inText c = true := by
  have hnumber (n : Nat) : ∀ c ∈ Decimal.text n, inText c = true := fun c hc =>
    Address.inText_of_isDigit (Decimal.isDigit_of_mem_text hc)
  have hpoint : inText '.' = true := by decide
  simp only [text, List.forall_mem_append, List.forall_mem_cons]
  exact ⟨⟨⟨hnumber _, hpoint, hnumber _⟩, hpoint, hnumber _⟩, hpoint, hnumber _⟩

namespace IPv6

variable {dotted : Bool} {t : Text} {gs : List UInt16}

theorem IsGroup.inText {g : UInt16} (h : IsGroup t g) : ∀ c ∈ t, inText c = true :=
  fun c hc => Address.inText_of_isHexDigit (h.digits c hc)

theorem IsRow.inText (h : IsRow dotted t gs) : ∀ c ∈ t, inText c = true := by
  induction h with
  | last hgroup => exact hgroup.inText
  | address ip => exact ip.inText_of_mem_text
  | more hgroup _ ih =>
    rw [List.forall_mem_append, List.forall_mem_cons]
    exact ⟨hgroup.inText, by decide, ih⟩

theorem IsSide.inText (h : IsSide dotted t gs) : ∀ c ∈ t, inText c = true := by
  cases h with
  | nothing => exact List.forall_mem_nil _
  | row hrow => exact hrow.inText

theorem IsRow.colon_mem (h : IsRow dotted t gs) (hlong : 2 < gs.length) : ':' ∈ t := by
  cases h with
  | last => exact absurd hlong (by simp)
  | address => exact absurd hlong (by simp)
  | more => simp

theorem IsLiteral.colon_mem {ip : IPv6} (h : IsLiteral t ip) : ':' ∈ t := by
  cases h with
  | whole hrow => exact hrow.colon_mem (show 2 < 8 by decide)
  | shortened => simp

end IPv6

namespace Address

variable {t : Text} {a : Address}

theorem inText_of_ofText? (h : ofText? t = some a) : ∀ c ∈ t, inText c = true := by
  cases ofText?_eq_some_iff.mp h with
  | v4 ip => exact ip.inText_of_mem_text
  | v6 hliteral =>
    cases hliteral with
    | whole hrow => exact hrow.inText
    | shortened hfront hback =>
      rw [List.forall_mem_append, List.forall_mem_cons, List.forall_mem_cons]
      exact ⟨hfront.inText, by decide, by decide, hback.inText⟩

/-- A text that denotes an address ends in a number behind a point, or holds a colon. -/
theorem ends_or_colon (h : ofText? t = some a) :
    (∃ front ds, t = front ++ '.' :: ds ∧ ds ≠ [] ∧ ∀ c ∈ ds, c.isDigit = true) ∨ ':' ∈ t := by
  cases ofText?_eq_some_iff.mp h with
  | v4 ip =>
    exact .inl ⟨_, _, rfl, Decimal.text_ne_nil _, fun c hc => Decimal.isDigit_of_mem_text hc⟩
  | v6 hliteral => exact .inr hliteral.colon_mem

end Address
end MediaPerimeter
