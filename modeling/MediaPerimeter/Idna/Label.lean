import MediaPerimeter.Idna.Mapping
import MediaPerimeter.Unicode.Direction
import MediaPerimeter.Unicode.Joining
import MediaPerimeter.Unicode.Normal

/-!
# Labels of domain names

The conditions under which a label that is not all ASCII stands in a domain name: its characters,
the joiners in it, and, in a name that is written from right to left in some part, its direction.
-/
namespace MediaPerimeter.Idna

open Unicode

def nonJoiner : Char := .ofNat 0x200c

def joiner : Char := .ofNat 0x200d

def endsInVirama (before : Text) : Bool :=
  before.getLast?.any fun c => combiningClass c == viramaClass

def joinsAcross (before after : Text) : Bool :=
  (before.reverse.dropWhile transparent.contains).head?.any joinsAfter &&
    (after.dropWhile transparent.contains).head?.any joinsBefore

/-- Each joiner follows a consonant whose vowel is taken away; a non-joiner may also stand between
two letters that would join. `before` is what stands in front of the text. -/
def hasGoodJoiners (before : Text) : Text → Bool
  | [] => true
  | c :: after =>
    (if c = joiner then endsInVirama before
     else if c = nonJoiner then endsInVirama before || joinsAcross before after
     else true) && hasGoodJoiners (before ++ [c]) after

def isRightward (c : Char) : Bool :=
  match direction c with
  | .right | .arabicLetter | .arabicNumber => true
  | _ => false

def staysLeft : Direction → Bool
  | .left | .europeanNumber | .europeanSeparator | .commonSeparator | .europeanTerminator
  | .otherNeutral | .boundaryNeutral | .mark => true
  | _ => false

def endsLeft : Direction → Bool
  | .left | .europeanNumber => true
  | _ => false

def staysRight : Direction → Bool
  | .right | .arabicLetter | .arabicNumber | .europeanNumber | .europeanSeparator
  | .commonSeparator | .europeanTerminator | .otherNeutral | .boundaryNeutral | .mark => true
  | _ => false

def endsRight : Direction → Bool
  | .right | .arabicLetter | .europeanNumber | .arabicNumber => true
  | _ => false

/-- The rule for labels of a name with letters from right to left: a label begins with a letter,
keeps its direction and ends in a letter or a number; numbers of both kinds do not meet in one from
right to left. -/
def hasGoodDirection (label : Text) : Bool :=
  match label.map direction with
  | [] => true
  | first :: rest =>
    let last := ((first :: rest).reverse.dropWhile (· == .mark)).headD first
    match first with
    | .left => rest.all staysLeft && endsLeft last
    | .right | .arabicLetter => rest.all staysRight && endsRight last &&
        !(rest.contains .europeanNumber && rest.contains .arabicNumber)
    | _ => false

def isGoodLabel (label : Text) : Bool :=
  label.all isValid && normalize label == label && !(label.head?.any marks.contains) &&
    hasGoodJoiners [] label

end MediaPerimeter.Idna
