import MediaPerimeter.Unicode.Ranges

/-!
# Tables of characters

Tables are written as rows of hexadecimal numbers. Each entry begins with the distance of its
character from that of the entry before, and entries are found by bisection.
-/
namespace MediaPerimeter.Unicode

def lastBefore? (ascending : Array Nat) (c : Char) : Option Nat :=
  match countUpTo ascending c.toNat 0 ascending.size with
  | 0 => none
  | i + 1 => some i

/-- Every `step`-th character from `start` on, `count` of them, with the characters at the same
distances from `target`. -/
structure Run where
  start : Nat
  target : Nat
  count : Nat
  step : Nat

structure RunTable where
  starts : Array Nat
  runs : Array Run

namespace RunTable

def readRuns : (base : Nat) → List Nat → List Run
  | base, gap :: target :: count :: step :: rest =>
    ⟨base + gap, target, count, step⟩ :: readRuns (base + gap) rest
  | _, _ => []

def ofRows (rows : List String) : RunTable :=
  let runs := readRuns 0 (numbers rows)
  ⟨(runs.map Run.start).toArray, runs.toArray⟩

def find? (t : RunTable) (c : Char) : Option Char := do
  let run ← t.runs[← lastBefore? t.starts c]?
  let distance := c.toNat - run.start
  if distance % run.step = 0 ∧ distance / run.step < run.count then
    some (.ofNat (run.target + distance))
  else none

end RunTable

structure SequenceTable where
  starts : Array Nat
  sequences : Array (List Char)

namespace SequenceTable

def readEntries : (base : Nat) → List Nat → List (Char × List Char)
  | base, gap :: length :: rest =>
    (.ofNat (base + gap), (rest.take length).map Char.ofNat) ::
      readEntries (base + gap) (rest.drop length)
  | _, _ => []
termination_by _ ns => ns.length
decreasing_by
  simp_all
  omega

def ofEntries (entries : List (Char × List Char)) : SequenceTable :=
  ⟨(entries.map fun e => e.1.toNat).toArray, (entries.map Prod.snd).toArray⟩

def ofRows (rows : List String) : SequenceTable := ofEntries (readEntries 0 (numbers rows))

def find? (t : SequenceTable) (c : Char) : Option (List Char) := do
  let i ← lastBefore? t.starts c
  if t.starts[i]? = some c.toNat then t.sequences[i]? else none

end SequenceTable

def triples : (base : Nat) → List Nat → List (Char × Char × Char)
  | base, gap :: a :: b :: rest =>
    (.ofNat (base + gap), .ofNat a, .ofNat b) :: triples (base + gap) rest
  | _, _ => []

structure ClassTable where
  starts : Array Nat
  classes : Array Nat

namespace ClassTable

def readClasses : (base : Nat) → List Nat → List (Nat × Nat)
  | base, gap :: k :: rest => (base + gap, k) :: readClasses (base + gap) rest
  | _, _ => []

def ofRows (rows : List String) : ClassTable :=
  let entries := readClasses 0 (numbers rows)
  ⟨(entries.map Prod.fst).toArray, (entries.map Prod.snd).toArray⟩

/-- The class of a character; zero in front of the first boundary. -/
def classOf (t : ClassTable) (c : Char) : Nat :=
  ((lastBefore? t.starts c).bind fun i => t.classes[i]?).getD 0

end ClassTable
end MediaPerimeter.Unicode
