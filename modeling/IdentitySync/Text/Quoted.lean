import IdentitySync.Text.Hexadecimal
import IdentitySync.Text.Hidden

/-!
Quoted texts as messages show them: a quotation mark, a backslash and five control characters have
short escapes, every other hidden character is written by its number in lower-case hexadecimal.
-/
namespace IdentitySync.Text

def shown (c : Char) : List Char :=
  if c = '"' then ['\\', '"']
  else if c = '\\' then ['\\', '\\']
  else if c = '\n' then ['\\', 'n']
  else if c = '\r' then ['\\', 'r']
  else if c = '\t' then ['\\', 't']
  else if c.toNat = 0 then ['\\', '0']
  else if isHidden c then ['\\', 'u', '\x7b'] ++ hexDigits c.toNat ++ ['\x7d']
  else [c]

def quotedChars (cs : List Char) : List Char := '"' :: (cs.flatMap shown ++ ['"'])

def quoted (s : String) : String := String.ofList (quotedChars s.toList)

def commaJoined (xs : List String) : String := ", ".intercalate xs

def quotedList (xs : List String) : String := "[" ++ commaJoined (xs.map quoted) ++ "]"

def shownOption (f : α → String) : Option α → String
  | none => "None"
  | some a => "Some(" ++ f a ++ ")"

def shownBool (b : Bool) : String := if b then "true" else "false"

def shownRecord (name : String) (fields : List (String × String)) : String :=
  name ++ " \x7b " ++ commaJoined (fields.map fun f => f.1 ++ ": " ++ f.2) ++ " \x7d"

end IdentitySync.Text
