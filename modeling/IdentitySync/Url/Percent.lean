import IdentitySync.Text.Hexadecimal
import IdentitySync.Text.Utf8

/-!
Percent-encoding: bytes outside ASCII, control characters and the characters of a set are written
as a percent sign and two hexadecimal digits.
-/
namespace IdentitySync.Url
open Text

def encodedByte (b : Nat) : List Char := ['%', hexCapitalChar (b / 16), hexCapitalChar (b % 16)]

def encodeWith (escaped : List Char) (cs : List Char) : List Char :=
  cs.flatMap fun c =>
    if c.toNat < 32 ∨ 126 < c.toNat ∨ c ∈ escaped then (utf8Char c).flatMap encodedByte else [c]

/-- The sets of the URL standard, by part. -/
def inFragment : List Char := [' ', '"', '<', '>', Char.ofNat 96]

def inQuery : List Char := [' ', '"', '#', '<', '>']

def inSpecialQuery : List Char := Char.ofNat 39 :: inQuery

def inPath : List Char := inFragment ++ ['#', '?', '\x7b', '\x7d']

def inUserInfo : List Char := inPath ++ ['/', ':', ';', '=', '@', '[', '\\', ']', '^', '|']

def decodedBytes : List Char → List Nat
  | [] => []
  | [a] => utf8Char a
  | [a, b] => utf8Char a ++ utf8Char b
  | a :: b :: c :: rest =>
    if a = '%' then
      match hexValue? b, hexValue? c with
      | some h, some l => (h * 16 + l) :: decodedBytes rest
      | _, _ => utf8Char a ++ decodedBytes (b :: c :: rest)
    else utf8Char a ++ decodedBytes (b :: c :: rest)
termination_by cs => cs.length

def decoded (cs : List Char) : List Char := decodeBytes none (decodedBytes cs)

end IdentitySync.Url
