import IdentitySync.Json.Numeral
import IdentitySync.Text.Quoted

/-!
Compact JSON text: no blanks, members in their order, and in strings only what has to be escaped.
-/
namespace IdentitySync.Json
open Text

def escaped (c : Char) : List Char :=
  if c = '"' then ['\\', '"']
  else if c = '\\' then ['\\', '\\']
  else if c.toNat = 8 then ['\\', 'b']
  else if c.toNat = 12 then ['\\', 'f']
  else if c = '\n' then ['\\', 'n']
  else if c = '\r' then ['\\', 'r']
  else if c = '\t' then ['\\', 't']
  else if c.toNat < 32 then
    ['\\', 'u', '0', '0', hexDigitChar (c.toNat / 16), hexDigitChar (c.toNat % 16)]
  else [c]

def stringChars (s : String) : List Char := '"' :: (s.toList.flatMap escaped ++ ['"'])

mutual

def chars : Json → List Char
  | .null => "null".toList
  | .bool b => if b then "true".toList else "false".toList
  | .number n => n.text.toList
  | .string s => stringChars s
  | .list items => '[' :: (itemChars items ++ [']'])
  | .record fields => '\x7b' :: (fieldChars fields ++ ['\x7d'])

def itemChars : List Json → List Char
  | [] => []
  | [j] => j.chars
  | j :: rest => j.chars ++ ',' :: itemChars rest

def fieldChars : List (String × Json) → List Char
  | [] => []
  | [(k, j)] => stringChars k ++ ':' :: j.chars
  | (k, j) :: rest => stringChars k ++ ':' :: (j.chars ++ ',' :: fieldChars rest)

end

def text (j : Json) : String := String.ofList j.chars

end IdentitySync.Json
