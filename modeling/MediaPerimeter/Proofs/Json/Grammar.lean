import MediaPerimeter.Json.Reader

/-!
# The form of JSON texts

The grammar as relations between a text and what is left of it behind a value, apart from any
reader. A value that is only passed over may hold bytes that are no UTF-8 and surrogates that have
no partner; a name, or a string that is read, may not.
-/
namespace MediaPerimeter.Json

open Read (Frame shortEscape? pairChar isLeading isTrailing)

def Blanks (t rest : Bytes) : Prop := ∃ ws, t = ws ++ rest ∧ ∀ b ∈ ws, Read.isBlank b = true

inductive Hex4 : Bytes → Nat → Bytes → Prop
  | digits {a b c d high low rest} (hhigh : Percent.pair? a b = some high)
      (hlow : Percent.pair? c d = some low) :
      Hex4 (a :: b :: c :: d :: rest) (high.toNat * 256 + low.toNat) rest

/-- The rest of a string behind its opening mark, and the bytes that it stands for. -/
inductive Spells : Bytes → Bytes → Bytes → Prop
  | close {rest} : Spells (0x22 :: rest) [] rest
  | plain {b t bs rest} (hmark : b ≠ 0x22) (hslash : b ≠ 0x5c) (hcontrol : ¬ b < 0x20)
      (more : Spells t bs rest) : Spells (b :: t) (b :: bs) rest
  | short {b x t bs rest} (hshort : shortEscape? b = some x) (more : Spells t bs rest) :
      Spells (0x5c :: b :: t) (x :: bs) rest
  | number {t n u bs rest} (digits : Hex4 t n u) (hlead : isLeading n = false)
      (htrail : isTrailing n = false) (more : Spells u bs rest) :
      Spells (0x5c :: 0x75 :: t) (Utf8.encode [Char.ofNat n] ++ bs) rest
  | pair {t high u low v bs rest} (first : Hex4 t high (0x5c :: 0x75 :: u))
      (hlead : isLeading high = true) (second : Hex4 u low v) (htrail : isTrailing low = true)
      (more : Spells v bs rest) :
      Spells (0x5c :: 0x75 :: t) (Utf8.encode [pairChar high low] ++ bs) rest

/-- The rest of a string that is passed over. -/
inductive Skims : Bytes → Bytes → Prop
  | close {rest} : Skims (0x22 :: rest) rest
  | plain {b t rest} (hmark : b ≠ 0x22) (hslash : b ≠ 0x5c) (hcontrol : ¬ b < 0x20)
      (more : Skims t rest) : Skims (b :: t) rest
  | short {b x t rest} (hshort : shortEscape? b = some x) (more : Skims t rest) :
      Skims (0x5c :: b :: t) rest
  | number {t n u rest} (digits : Hex4 t n u) (more : Skims u rest) :
      Skims (0x5c :: 0x75 :: t) rest

theorem Spells.skims {t bs rest : Bytes} (h : Spells t bs rest) : Skims t rest := by
  induction h with
  | close => exact .close
  | plain hmark hslash hcontrol _ ih => exact .plain hmark hslash hcontrol ih
  | short hshort _ ih => exact .short hshort ih
  | number digits _ _ _ ih => exact .number digits ih
  | pair first _ second _ _ ih => exact .number first (.number second ih)

def Digits (ds : Bytes) : Prop := ds ≠ [] ∧ ∀ d ∈ ds, Number.isDigit d = true

def Whole (ds : Bytes) : Prop := Digits ds ∧ (ds.head? = some 0x30 → ds = [0x30])

def Fraction (t : Bytes) : Prop := t = [] ∨ ∃ ds, Digits ds ∧ t = 0x2e :: ds

def Power (t : Bytes) : Prop := t = [] ∨ ∃ e sign ds, (e = 0x65 ∨ e = 0x45) ∧
  (sign = [] ∨ sign = [0x2b] ∨ sign = [0x2d]) ∧ Digits ds ∧ t = e :: (sign ++ ds)

inductive Numeral : Bytes → Prop
  | parts {sign whole fraction power} (hsign : sign = [] ∨ sign = [0x2d]) (hwhole : Whole whole)
      (hfraction : Fraction fraction) (hpower : Power power) :
      Numeral (sign ++ whole ++ fraction ++ power)

def EndsNumber (rest : Bytes) : Prop :=
  ∀ b ∈ rest.head?, Number.isDigit b = false ∧ b ≠ 0x2e ∧ b ≠ 0x65 ∧ b ≠ 0x45

def words : List String := ["null", "true", "false"]

inductive Scalar : Bytes → Bytes → Prop
  | word {w rest} (hw : w ∈ words) : Scalar (Utf8.encode w.toList ++ rest) rest
  | string {t rest} (body : Skims t rest) : Scalar (0x22 :: t) rest
  | number {v rest} (numeral : Numeral v) : Scalar (v ++ rest) rest

def opening : Frame → UInt8
  | .list => 0x5b
  | .object => 0x7b

inductive Key : Frame → Bytes → Bytes → Prop
  | item {t} : Key .list t t
  | name {t u v rest} (mark : Blanks t (0x22 :: u)) (name : Skims u v)
      (colon : Blanks v (0x3a :: rest)) : Key .object t rest

mutual

inductive Value : Bytes → Bytes → Prop
  | scalar {t rest} (h : Scalar t rest) : Value t rest
  | nested {frame t rest} (h : Inside frame t rest) : Value (opening frame :: t) rest

inductive Inside : Frame → Bytes → Bytes → Prop
  | empty {frame t rest} (close : Blanks t (frame.close :: rest)) : Inside frame t rest
  | entries {frame t u rest} (first : Entry frame t u) (more : More frame u rest) :
      Inside frame t rest

inductive Entry : Frame → Bytes → Bytes → Prop
  | entry {frame t u v rest} (key : Key frame t u) (blanks : Blanks u v) (value : Value v rest) :
      Entry frame t rest

inductive More : Frame → Bytes → Bytes → Prop
  | close {frame t rest} (close : Blanks t (frame.close :: rest)) : More frame t rest
  | entry {frame t u v rest} (comma : Blanks t (0x2c :: u)) (next : Entry frame u v)
      (more : More frame v rest) : More frame t rest

end

def Leads (first : Bool) (t rest : Bytes) : Prop :=
  if first then Blanks t (0x22 :: rest) else ∃ u, Blanks t (0x2c :: u) ∧ Blanks u (0x22 :: rest)

/-- The members of an object up to its closing brace, with their names as they are read and the
texts of their values. -/
inductive Members : Bool → List (Text × Bytes) → Bytes → Bytes → Prop
  | close {first t rest} (close : Blanks t (0x7d :: rest)) : Members first [] t rest
  | member {first t u name v w value x ms rest} (lead : Leads first t u)
      (spells : Spells u (Utf8.encode name) v) (colon : Blanks v (0x3a :: w))
      (blanks : Blanks w (value ++ x)) (form : Value (value ++ x) x)
      (more : Members false ms x rest) : Members first ((name, value) :: ms) t rest

def IsObject (t : Bytes) (ms : List (Text × Bytes)) : Prop :=
  ∃ u v, Blanks t (0x7b :: u) ∧ Members true ms u v ∧ Blanks v []

def valuesOf (name : String) (ms : List (Text × Bytes)) : List Bytes :=
  (ms.filter (·.1 == name.toList)).map Prod.snd

def IsString (v : Bytes) (s : Text) : Prop := ∃ u, v = 0x22 :: u ∧ Spells u (Utf8.encode s) []

def IsInteger (v : Bytes) (n : Int) : Prop := v = Utf8.encode (Decimal.intText n)

end MediaPerimeter.Json
