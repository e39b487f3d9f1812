import MediaPerimeter.Unicode.Shapeless

/-!
# Quoted text

Text between quotation marks for the eyes of an operator. What could hide, end the quotation or
break the line is written as an escape; a character without a shape of its own is written as its
number.
-/
namespace MediaPerimeter.Quoted

def numbered (c : Char) : Text := '\\' :: 'u' :: '\x7b' :: Hex.text c.toNat ++ ['\x7d']

def escape (marked : List Char) (c : Char) : Text :=
  if c = '\x00' then ['\\', '0']
  else if c = '\t' then ['\\', 't']
  else if c = '\n' then ['\\', 'n']
  else if c = '\r' then ['\\', 'r']
  else if c ∈ marked then ['\\', c]
  else if ' ' ≤ c ∧ c ≤ '~' then [c]
  else if Unicode.shapeless.contains c then numbered c
  else [c]

def write (marked : List Char) (t : Text) : Text := '"' :: t.flatMap (escape marked) ++ ['"']

def text (t : Text) : Text := write ['"', '\\'] t

/-- Quotes a path, in which the other quotation mark is escaped too. -/
def path (t : Text) : Text := write ['"', '\\', '\''] t

end MediaPerimeter.Quoted
