import MediaPerimeter.Address.Reader
import MediaPerimeter.Text.Blank

/-!
# How far an address reaches

Every address, and every text that may hold one, belongs to exactly one class. Only public addresses
may be dialed on a caller's behalf. A version 6 address that carries one of version 4 is judged by
the address it carries.
-/
namespace MediaPerimeter

inductive Reach where
  | publicNet
  | loopback
  | privateNet
  | linkLocal
  | unspecified
  | unparseable
deriving DecidableEq

namespace Reach

def name : Reach → String
  | publicNet => "public"
  | loopback => "loopback"
  | privateNet => "private"
  | linkLocal => "link-local"
  | unspecified => "unspecified"
  | unparseable => "unparseable"

end Reach

def IPv4.reach (ip : IPv4) : Reach :=
  if ip.a = 0 ∧ ip.b = 0 ∧ ip.c = 0 ∧ ip.d = 0 then .unspecified
  else if ip.a = 127 then .loopback
  else if ip.a = 10 ∨ (ip.a = 172 ∧ 16 ≤ ip.b ∧ ip.b ≤ 31) ∨ (ip.a = 192 ∧ ip.b = 168) then
    .privateNet
  else if ip.a = 169 ∧ ip.b = 254 then .linkLocal
  else .publicNet

/-- The class of the address itself, whatever it carries. -/
def IPv6.ownReach (ip : IPv6) : Reach :=
  if ip = ⟨0, 0, 0, 0, 0, 0, 0, 0⟩ then .unspecified
  else if ip = ⟨0, 0, 0, 0, 0, 0, 0, 1⟩ then .loopback
  else if ip.g₀ &&& 0xfe00 = 0xfc00 then .privateNet
  else if ip.g₀ &&& 0xffc0 = 0xfe80 then .linkLocal
  else .publicNet

namespace Address

def reach : Address → Reach
  | .v4 ip => ip.reach
  | .v6 ip =>
    match ip.mapped? with
    | some carried => carried.reach
    | none => ip.ownReach

def isPublic (a : Address) : Bool := a.reach == .publicNet

end Address

/-- The class of the address in a text, which may have blanks and one pair of brackets around it. -/
def Reach.ofText (t : Text) : Reach :=
  match Address.ofText? t.trim.unbracket with
  | some a => a.reach
  | none => .unparseable

def Reach.isSafe (t : Text) : Bool := ofText t == .publicNet

structure UnsafeAddress where
  reach : Reach
  address : Text
deriving DecidableEq

def UnsafeAddress.message (u : UnsafeAddress) : String :=
  s!"invalid private ip {String.ofList u.address} ({u.reach.name})"

namespace Address

def check (a : Address) : Except UnsafeAddress Unit :=
  if a.isPublic then .ok () else .error ⟨a.reach, a.text⟩

def checkAll : List Address → Except UnsafeAddress Unit
  | [] => .ok ()
  | a :: rest =>
    match a.check with
    | .ok () => checkAll rest
    | .error u => .error u

theorem check_eq_ok_iff {a : Address} : a.check = .ok () ↔ a.isPublic = true := by
  unfold check
  split <;> simp_all

theorem checkAll_eq_ok_iff {as : List Address} :
    checkAll as = .ok () ↔ ∀ a ∈ as, a.isPublic = true := by
  induction as with
  | nil => simp [checkAll]
  | cons a rest ih =>
    rw [checkAll]
    split <;> rename_i h
    · simp [ih, check_eq_ok_iff.1 h]
    · have : a.isPublic ≠ true := fun hp => by simp [check_eq_ok_iff.2 hp] at h
      simp [this]

theorem check_of_not_isPublic {a : Address} (h : a.isPublic = false) :
    a.check = .error ⟨a.reach, a.text⟩ := if_neg (by simp [h])

/-- A list is refused for the first of its addresses that is not public. -/
theorem checkAll_eq_error_iff {as : List Address} {u : UnsafeAddress} :
    checkAll as = .error u ↔
      ∃ a, as.find? (!·.isPublic) = some a ∧ u = ⟨a.reach, a.text⟩ := by
  induction as with
  | nil => simp [checkAll]
  | cons a rest ih =>
    rw [checkAll]
    cases hp : a.isPublic with
    | true => simp [check_eq_ok_iff.2 hp, hp, ih]
    | false => simp [check_of_not_isPublic hp, hp, eq_comm]

end Address
end MediaPerimeter
