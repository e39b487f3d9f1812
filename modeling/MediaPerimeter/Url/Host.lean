import MediaPerimeter.Address.Reader
import MediaPerimeter.Idna.Domain
import MediaPerimeter.Text.Percent
import MediaPerimeter.Url.Basic

/-!
# Hosts of URLs

A host in brackets is a version 6 address. In a special scheme any other is unescaped and brought
into ASCII form, and if its last label is a number it is a version 4 address: one to four numbers,
each decimal, octal or hexadecimal, of which the last fills the bytes that are left.
-/
namespace MediaPerimeter.Url.Host

def isOctal (c : Char) : Bool := '0' ≤ c && c ≤ '7'

/-- A number with `0x` in front is hexadecimal, one with `0` octal; nothing behind either is zero.
-/
def number? : Text → Option Nat
  | [] => none
  | '0' :: 'x' :: ds => if ds.all Hex.isDigit then some (Hex.value ds) else none
  | '0' :: d :: ds => if (d :: ds).all isOctal then some (octal (d :: ds)) else none
  | ds => if ds.all Char.isDigit then some (Decimal.value ds) else none
where
  octal (ds : Text) : Nat := ds.foldl (fun n d => 8 * n + (d.toNat - '0'.toNat)) 0

def labels (t : Text) : List Text :=
  let parts := Text.split '.' t
  if 1 < parts.length ∧ parts.getLast? = some [] then parts.dropLast else parts

/-- A name whose last label is a number can only be an address. -/
def endsInNumber (t : Text) : Bool :=
  match (labels t).getLast? with
  | some last => last != [] && (last.all Char.isDigit || (number? last).isSome)
  | none => false

/-- All numbers but the last are bytes; the last is below `256 ^ left`. -/
def fill? (left : Nat) : List Nat → Option Nat
  | [] => none
  | [n] => if n < Nat.pow 256 left then some n else none
  | n :: rest => do
    let low ← fill? (left - 1) rest
    if n < 256 then some (n * Nat.pow 256 (left - 1) + low) else none

def ipv4? (t : Text) : Option IPv4 := do
  let parts := labels t
  let numbers ← parts.mapM number?
  if 4 < parts.length then none else (fill? 4 numbers).map IPv4.ofNumber

def ipv6? (t : Text) : Option IPv6 :=
  match IPv6.read t with
  | some (ip, []) => some ip
  | _ => none

def ofBracketed (t : Text) : Except Fault Host :=
  match if t.getLast? = some ']' then ipv6? t.unbracket else none with
  | some ip => .ok (.v6 ip)
  | none => .error .invalidIPv6

def ofDomain (t : Text) : Except Fault Host :=
  match (Utf8.decode? (Percent.decode (Utf8.encode t))).bind Idna.toAscii? with
  | none => .error .invalidDomain
  | some [] => .error .emptyHost
  | some domain =>
    if endsInNumber domain then
      match ipv4? domain with
      | some ip => .ok (.v4 ip)
      | none => .error .invalidIPv4
    else .ok (.name domain)

def isDelimiter (c : Char) : Bool := "\x00\t\n\r #/:<>?@[\\]^|".toList.contains c

def ofOpaque (t : Text) : Except Fault Host :=
  if t.any isDelimiter then .error .invalidHostCharacter
  else .ok (.name (Percent.encodeText (Percent.keepsPrinted "") t))

def ofText (special : Bool) (t : Text) : Except Fault Host :=
  if t.head? = some '[' then ofBracketed t
  else if special then ofDomain t
  else ofOpaque t

end MediaPerimeter.Url.Host
