import MediaPerimeter.Text.Decimal
import MediaPerimeter.Text.Hex
import MediaPerimeter.Text.Utf8

/-!
# JSON values

Values and their compact text: no blanks, fields in order, and in strings only what must be escaped.
-/
namespace MediaPerimeter

inductive Json where
  | null
  | bool (b : Bool)
  /-- A number as it is written. -/
  | number (text : Text)
  | string (t : Text)
  | array (items : List Json)
  | object (fields : List (Text × Json))

namespace Json

def int (n : Int) : Json := .number (Decimal.intText n)

def ofString (s : String) : Json := .string s.toList

def record (fields : List (String × Json)) : Json :=
  .object (fields.map fun f => (f.1.toList, f.2))

def escape (c : Char) : Text :=
  if c = '"' then ['\\', '"']
  else if c = '\\' then ['\\', '\\']
  else if c = '\x08' then ['\\', 'b']
  else if c = '\t' then ['\\', 't']
  else if c = '\n' then ['\\', 'n']
  else if c = '\x0c' then ['\\', 'f']
  else if c = '\r' then ['\\', 'r']
  else if c.toNat < 0x20 then
    ['\\', 'u', '0', '0', Hex.small (c.toNat / 16), Hex.small (c.toNat % 16)]
  else [c]

def quote (t : Text) : Text := '"' :: t.flatMap escape ++ ['"']

mutual

def text : Json → Text
  | .null => "null".toList
  | .bool true => "true".toList
  | .bool false => "false".toList
  | .number t => t
  | .string t => quote t
  | .array items => '[' :: itemsText items ++ [']']
  | .object fields => '\x7b' :: fieldsText fields ++ ['\x7d']

def itemsText : List Json → Text
  | [] => []
  | [v] => v.text
  | v :: rest => v.text ++ ',' :: itemsText rest

def fieldsText : List (Text × Json) → Text
  | [] => []
  | [(k, v)] => quote k ++ ':' :: v.text
  | (k, v) :: rest => quote k ++ ':' :: v.text ++ ',' :: fieldsText rest

end

def bytes (v : Json) : Bytes := Utf8.encode v.text

end Json
end MediaPerimeter
