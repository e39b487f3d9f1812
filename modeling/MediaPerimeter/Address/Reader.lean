import MediaPerimeter.Address.Basic

/-!
# Reading addresses

Only the standard notations count: four decimal numbers without leading zeros, or eight hexadecimal
groups of at most four digits, where `::` stands for one group or more of zeros and the last two
groups may be written as a version 4 address. Each reader returns what is left after it.
-/
namespace MediaPerimeter

def expect (c : Char) (t : Text) : Option Text :=
  match t with
  | [] => none
  | x :: rest => if x = c then some rest else none

namespace IPv4

def octet (t : Text) : Option (UInt8 × Text) :=
  let ds := t.takeWhile Char.isDigit
  if ds = [] ∨ 3 < ds.length ∨ 255 < Decimal.value ds ∨ (ds.head? = some '0' ∧ 1 < ds.length) then
    none
  else some (.ofNat (Decimal.value ds), t.dropWhile Char.isDigit)

def read (t : Text) : Option (IPv4 × Text) := do
  let (a, t) ← octet t
  let (b, t) ← octet (← expect '.' t)
  let (c, t) ← octet (← expect '.' t)
  let (d, t) ← octet (← expect '.' t)
  some (⟨a, b, c, d⟩, t)

end IPv4

namespace IPv6

def group (t : Text) : Option (UInt16 × Text) :=
  let ds := t.takeWhile Hex.isDigit
  if ds = [] ∨ 4 < ds.length then none
  else some (.ofNat (Hex.value ds), t.dropWhile Hex.isDigit)

/-- The groups at the front of `t`, at most `left` of them, each but the first after a colon.
The flag says that they ended with a version 4 address, which takes the place of two. -/
def leading : (left : Nat) → (first : Bool) → Text → List UInt16 × Bool × Text
  | 0, _, t => ([], false, t)
  | left + 1, first, t =>
    match if first then some t else expect ':' t with
    | none => ([], false, t)
    | some u =>
      match if left = 0 then none else IPv4.read u with
      | some (ip, rest) => ([ip.high, ip.low], true, rest)
      | none =>
        match group u with
        | none => ([], false, t)
        | some (g, rest) =>
          let (gs, dotted, rest) := leading left false rest
          (g :: gs, dotted, rest)

def read (t : Text) : Option (IPv6 × Text) :=
  let (front, dotted, rest) := leading 8 true t
  if front.length = 8 then (ofGroups? front).map (·, rest)
  else if dotted then none
  else match rest with
    | ':' :: ':' :: rest =>
      let (back, _, rest) := leading (7 - front.length) true rest
      let zeros := List.replicate (8 - front.length - back.length) 0
      (ofGroups? (front ++ zeros ++ back)).map (·, rest)
    | _ => none

end IPv6

namespace Address

def ofText? (t : Text) : Option Address :=
  match IPv4.read t with
  | some (ip, []) => some (.v4 ip)
  | some _ => none
  | none =>
    match IPv6.read t with
    | some (ip, []) => some (.v6 ip)
    | _ => none

end Address
end MediaPerimeter
