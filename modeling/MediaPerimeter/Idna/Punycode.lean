import MediaPerimeter.Text.Basic

/-!
# Punycode

Any text written in letters, digits and hyphens. The ASCII characters stand first; the others follow
in ascending order as the number of places and code points passed from one insertion to the next.
-/
namespace MediaPerimeter.Punycode

def base : Nat := 36
def least : Nat := 1
def greatest : Nat := 26
def firstBias : Nat := 72
def firstCode : Nat := 128

def digit (n : Nat) : Char :=
  if n < 26 then .ofNat ('a'.toNat + n) else .ofNat ('0'.toNat + (n - 26))

def digit? (c : Char) : Option Nat :=
  if c.isLower then some (c.toNat - 'a'.toNat)
  else if c.isUpper then some (c.toNat - 'A'.toNat)
  else if c.isDigit then some (c.toNat - '0'.toNat + 26)
  else none

/-- The digit from which on a number goes on, at the place `k`. -/
def threshold (bias k : Nat) : Nat :=
  if k ≤ bias then least else if bias + greatest ≤ k then greatest else k - bias

theorem threshold_pos (bias k : Nat) : 0 < threshold bias k := by
  unfold threshold least greatest
  split
  · omega
  · split <;> omega

def adaptLoop (delta k : Nat) : Nat :=
  if 455 < delta then adaptLoop (delta / 35) (k + base) else k + 36 * delta / (delta + 38)
termination_by delta
decreasing_by omega

def adapt (delta count : Nat) (first : Bool) : Nat :=
  let delta := if first then delta / 700 else delta / 2
  adaptLoop (delta + delta / count) 0

def number (bias k n : Nat) : Text :=
  let t := threshold bias k
  if n < t then [digit n]
  else digit (t + (n - t) % (base - t)) :: number bias (k + base) ((n - t) / (base - t))
termination_by n
decreasing_by
  have h := threshold_pos bias k
  exact Nat.lt_of_le_of_lt (Nat.div_le_self _ _) (by omega)

structure Progress where
  delta : Nat
  bias : Nat
  /-- How many characters are in place. -/
  count : Nat
  written : Text

/-- Passes a character of the text on the way to the places of the code point `code`. -/
def pass (code basics : Nat) (p : Progress) (c : Char) : Progress :=
  if c.toNat < code then { p with delta := p.delta + 1 }
  else if c.toNat = code then
    ⟨0, adapt p.delta (p.count + 1) (p.count == basics), p.count + 1,
      p.written ++ number p.bias base p.delta⟩
  else p

/-- Inserts the code points in ascending order; `next` is the first one not passed yet. -/
def insertAll (t : Text) (basics : Nat) : List Nat → (next : Nat) → Progress → Text
  | [], _, p => p.written
  | code :: codes, next, p =>
    let start := { p with delta := p.delta + (code - next) * (p.count + 1) }
    let done := t.foldl (pass code basics) start
    insertAll t basics codes (code + 1) { done with delta := done.delta + 1 }

def insertCode (n : Nat) : List Nat → List Nat
  | [] => [n]
  | m :: rest =>
    if n < m then n :: m :: rest else if n = m then m :: rest else m :: insertCode n rest

def codes (t : Text) : List Nat :=
  ((t.map Char.toNat).filter (firstCode ≤ ·)).foldl (fun ns n => insertCode n ns) []

def encode (t : Text) : Text :=
  let basics := t.filter fun c => c.toNat < firstCode
  let start := basics ++ if basics = [] then [] else ['-']
  insertAll t basics.length (codes t) firstCode ⟨0, firstBias, basics.length, start⟩

/-- A number from the place `k` on, added to `i`, and what follows it. -/
def readNumber (bias : Nat) : (k weight i : Nat) → Text → Option (Nat × Text)
  | _, _, _, [] => none
  | k, weight, i, c :: rest => do
    let d ← digit? c
    let t := threshold bias k
    if d < t then some (i + d * weight, rest)
    else readNumber bias (k + base) (weight * (base - t)) (i + d * weight) rest

theorem readNumber_length {bias k weight i : Nat} {t rest : Text} {n : Nat}
    (h : readNumber bias k weight i t = some (n, rest)) : rest.length < t.length := by
  induction t generalizing k weight i with
  | nil => simp [readNumber] at h
  | cons c t ih =>
    rw [readNumber] at h
    cases hd : digit? c with
    | none => simp [hd] at h
    | some d =>
      simp only [hd, Option.bind_eq_bind, Option.bind_some] at h
      split at h
      · simp only [Option.some.injEq, Prod.mk.injEq] at h
        simp [h.2]
      · exact Nat.lt_succ_of_lt (ih h)

def char? (n : Nat) : Option Char := if n.isValidChar then some (.ofNat n) else none

def readAll (code bias i : Nat) (out text : Text) : Option Text :=
  match text with
  | [] => some out
  | c :: rest =>
    match h : readNumber bias base 1 i (c :: rest) with
    | none => none
    | some (j, left) => do
      let count := out.length + 1
      let code := code + j / count
      let d ← char? code
      let place := j % count
      readAll code (adapt (j - i) count (i == 0)) (place + 1) (out.insertIdx place d) left
termination_by text.length
decreasing_by
  have := readNumber_length h
  simpa using this

/-- The text behind the last hyphen is inserted into the one in front of it, if there is one. -/
def decode? (t : Text) : Option Text :=
  match t.cutLast '-' with
  | some (b :: bs, extended) => readAll firstCode firstBias 0 (b :: bs) extended
  | _ => readAll firstCode firstBias 0 [] t

end MediaPerimeter.Punycode
