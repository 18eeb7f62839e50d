import IdentitySync.Text.Blank
import IdentitySync.Url.Percent

/-!
Form-encoded names and values, as queries have them: pairs between ampersands, a plus for a blank.
-/
namespace IdentitySync.Url
open Text

def decodedPart (cs : List Char) : String :=
  String.ofList (decoded (cs.map fun c => if c = '+' then ' ' else c))

def readPair (cs : List Char) : String × String :=
  match splitFirst '=' cs with
  | some (name, value) => (decodedPart name, decodedPart value)
  | none => (decodedPart cs, "")

def readPairs (query : List Char) : List (String × String) :=
  ((pieces '&' query).filter fun p => !p.isEmpty).map readPair

def isPlainByte (b : Nat) : Bool :=
  (decide (48 ≤ b) && decide (b ≤ 57)) || (decide (65 ≤ b) && decide (b ≤ 90)) ||
    (decide (97 ≤ b) && decide (b ≤ 122)) || b = 42 || b = 45 || b = 46 || b = 95

def formByte (b : Nat) : List Char :=
  if b = 32 then ['+'] else if isPlainByte b then [Char.ofNat b] else encodedByte b

def formChars (s : String) : List Char := (utf8 s).flatMap formByte

/-- Pairs put behind a query that may hold others. -/
def appendPairs (query : List Char) : List (String × String) → List Char
  | [] => query
  | (name, value) :: rest =>
    let pair := formChars name ++ '=' :: formChars value
    appendPairs (if query.isEmpty then pair else query ++ '&' :: pair) rest

end IdentitySync.Url
