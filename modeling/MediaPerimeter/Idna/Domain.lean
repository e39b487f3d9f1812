import MediaPerimeter.Idna.Label
import MediaPerimeter.Idna.Punycode
import MediaPerimeter.Text.Utf8

/-!
# Domain names

The ASCII form of a domain name, in which names that are to be the same are equal. A name that is
ASCII already and claims no encoded label only changes to small letters. In any other, each label is
read, checked and encoded.
-/
namespace MediaPerimeter.Idna

def isAscii (c : Char) : Bool := c.toNat < 0x80

def isForbidden (c : Char) : Bool :=
  c.toNat ≤ 0x20 || c.toNat = 0x7f || "%#/:<>?@[\\]^|".toList.contains c

def encodedMark : Text := "xn--".toList

def isEncoded (label : Text) : Bool := encodedMark.isPrefixOf label

def readLabel? (label : Text) : Option Text :=
  if isEncoded label then do
    let text ← if label.all isAscii then Punycode.decode? (label.drop encodedMark.length) else none
    if text.all isAscii then none else some text
  else some label

/-- The ASCII form of a label; an encoded label is its own. -/
def writeLabel (label : Text) : Text :=
  if label.all isAscii then label else encodedMark ++ Punycode.encode label

def encodeDomain? (name : Text) : Option Text := do
  let mapped ← name.mapM map?
  let labels := Text.split '.' (Unicode.normalize mapped.flatten)
  let texts ← labels.mapM readLabel?
  if !texts.all fun t => t.all isAscii || isGoodLabel t then none
  if texts.any (·.any isRightward) && !texts.all hasGoodDirection then none
  let ascii := List.intercalate ['.'] (labels.map writeLabel)
  if ascii.any isForbidden then none else some ascii

def toAscii? (name : Text) : Option Text :=
  let small := name.lower
  if small.all isAscii && !(Text.split '.' small).any isEncoded then
    if small.any isForbidden then none else some small
  else encodeDomain? name

end MediaPerimeter.Idna
