import MediaPerimeter.Unicode.CombiningClass
import MediaPerimeter.Unicode.Decomposition
import MediaPerimeter.Text.Basic

/-!
# The composed normal form

Texts that are canonically equivalent have one normal form. Characters are taken apart, marks are
put in the order of their classes, and what composes is put together again.
-/
namespace MediaPerimeter.Unicode

-- A Hangul syllable is a leading consonant, a vowel and perhaps a trailing consonant; its place among
-- all syllables is counted from theirs.
namespace Hangul

def firstSyllable : Nat := 0xac00
def firstLead : Nat := 0x1100
def firstVowel : Nat := 0x1161
/-- One below the first trailing consonant: the place of a syllable without one. -/
def noTrail : Nat := 0x11a7
def leads : Nat := 19
def vowels : Nat := 21
def trails : Nat := 28

def isSyllable (n : Nat) : Bool :=
  firstSyllable ≤ n && n < firstSyllable + leads * vowels * trails

def decompose (n : Nat) : Text :=
  let i := n - firstSyllable
  let lead := Char.ofNat (firstLead + i / (vowels * trails))
  let vowel := Char.ofNat (firstVowel + i / trails % vowels)
  if i % trails = 0 then [lead, vowel] else [lead, vowel, .ofNat (noTrail + i % trails)]

def compose? (a b : Nat) : Option Char :=
  if firstLead ≤ a ∧ a < firstLead + leads ∧ firstVowel ≤ b ∧ b < firstVowel + vowels then
    some (.ofNat (firstSyllable + ((a - firstLead) * vowels + (b - firstVowel)) * trails))
  else if isSyllable a ∧ (a - firstSyllable) % trails = 0 ∧ noTrail < b ∧ b < noTrail + trails then
    some (.ofNat (a + (b - noTrail)))
  else none

end Hangul

def maxLevels : Nat := 4

def decomposed : (levels : Nat) → Char → Text
  | 0, c => [c]
  | levels + 1, c =>
    if c.toNat < 0xc0 then [c]
    else if Hangul.isSyllable c.toNat then Hangul.decompose c.toNat
    else match pairTable.find? c, singletons.find? c, sequences.find? c with
      | some [a, b], _, _ => decomposed levels a ++ [b]
      | _, some a, _ => [a]
      | _, _, some seq => seq
      | _, _, _ => [c]

def insertMark (c : Char) : Text → Text
  | [] => [c]
  | d :: rest =>
    if combiningClass c < combiningClass d then c :: d :: rest else d :: insertMark c rest

/-- The text with each run of marks in the order of their classes; `run` is the run being read. -/
def sortMarks (run : Text) : Text → Text
  | [] => run
  | c :: rest =>
    if combiningClass c = 0 then run ++ c :: sortMarks [] rest
    else sortMarks (insertMark c run) rest

def compositeOf? (a b : Char) : Option Char :=
  (pairs.find? fun p => p.2.1 == a && p.2.2 == b).map Prod.fst

def compose? (a b : Char) : Option Char := Hangul.compose? a.toNat b.toNat <|> compositeOf? a b

/-- Composes a base with what follows it; `between` are the marks, reversed, that stay behind the
base. A character reaches the base unless one of its own class or a higher one stands between them.
-/
def composeFrom (base : Char) (between : Text) : Text → Text
  | [] => base :: between.reverse
  | c :: rest =>
    let reaches := match between with
      | [] => true
      | last :: _ => combiningClass last < combiningClass c
    match if reaches then compose? base c else none with
    | some d => composeFrom d between rest
    | none =>
      if combiningClass c = 0 then base :: between.reverse ++ composeFrom c [] rest
      else composeFrom base (c :: between) rest

def normalize (t : Text) : Text :=
  match sortMarks [] (t.flatMap (decomposed maxLevels)) with
  | [] => []
  | c :: rest => composeFrom c [] rest

end MediaPerimeter.Unicode
