/-!
# Text and bytes

What crosses the perimeter is held as a list of characters or of bytes, so that cutting and
scanning it are list functions and their laws are list lemmas.
-/
namespace MediaPerimeter

abbrev Text := List Char

abbrev Bytes := List UInt8

namespace Text

/-- The letters `A` to `Z` become small; every other character stays. -/
def lower (t : Text) : Text := t.map Char.toLower

def cut (c : Char) (t : Text) : Option (Text × Text) :=
  match t.dropWhile (· != c) with
  | [] => none
  | _ :: rest => some (t.takeWhile (· != c), rest)

def cutLast (c : Char) (t : Text) : Option (Text × Text) :=
  (cut c t.reverse).map fun p => (p.2.reverse, p.1.reverse)

def breakAt (stop : Char → Bool) (t : Text) : Text × Text :=
  (t.takeWhile (!stop ·), t.dropWhile (!stop ·))

/-- All parts between the separators `c`; a text without `c` is its own only part. -/
def split (c : Char) : Text → List Text
  | [] => [[]]
  | x :: rest =>
    if x = c then [] :: split c rest
    else match split c rest with
      | [] => [[x]]
      | part :: parts => (x :: part) :: parts

def unbracket (t : Text) : Text :=
  match t with
  | '[' :: rest => if rest.getLast? = some ']' then rest.dropLast else t
  | _ => t

theorem breakAt_append (stop : Char → Bool) (t : Text) :
    (breakAt stop t).1 ++ (breakAt stop t).2 = t :=
  List.takeWhile_append_dropWhile

theorem split_ne_nil (c : Char) (t : Text) : split c t ≠ [] := by
  cases t with
  | nil => simp [split]
  | cons x rest =>
    rw [split]
    split
    · simp
    · split <;> simp

end Text
end MediaPerimeter
