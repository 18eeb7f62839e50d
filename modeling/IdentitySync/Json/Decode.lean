import IdentitySync.Json.Reader
import IdentitySync.Text.Quoted
import IdentitySync.Time.Rfc3339

/-!
Decoding of documents: what can be wrong with one, and the decoders of plain values.
-/
namespace IdentitySync
open Time

inductive DecodeError where
  | malformed
  | mismatch (found expected : String)
  | badValue (found expected : String)
  | badLength (length : Nat) (expected : String)
  | unknownVariant (name : String) (known : List String)
  | missingField (name : String)
  | duplicateField (name : String)
  | badTimestamp (e : TimestampError)
  | noEnvelope (key : String)
deriving DecidableEq, Repr

def inBackticks (s : String) : String := "`" ++ s ++ "`"

def oneOf : List String → String
  | [] => "nothing"
  | [a] => inBackticks a
  | [a, b] => inBackticks a ++ " or " ++ inBackticks b
  | names => "one of " ++ Text.commaJoined (names.map inBackticks)

def DecodeError.message : DecodeError → String
  | .malformed => "<json syntax>"
  | .mismatch found expected => "invalid type: " ++ found ++ ", expected " ++ expected
  | .badValue found expected => "invalid value: " ++ found ++ ", expected " ++ expected
  | .badLength n expected => "invalid length " ++ Text.numeral n ++ ", expected " ++ expected
  | .unknownVariant name known =>
    "unknown variant " ++ inBackticks name ++ ", expected " ++ oneOf known
  | .missingField name => "missing field " ++ inBackticks name
  | .duplicateField name => "duplicate field " ++ inBackticks name
  | .badTimestamp e => e.message
  | .noEnvelope key => "missing '" ++ key ++ "' in response"

/-- Where a document comes from: straight from a text, from a value, or from parts of either that
    were set aside until it was known what they are. -/
inductive Source where
  | text
  | value
  | aside
deriving DecidableEq, Repr

abbrev Decoded := Except DecodeError

/-- A fault inside a list or object of a text is reported by its place there, for which a timestamp
    has no words of its own. -/
def Source.place (src : Source) (r : Decoded α) : Decoded α :=
  match src, r with
  | .text, .error (.badTimestamp _) => .error .malformed
  | _, r => r

namespace Document

def numberFound (n : Number) : String :=
  match n with
  | .real _ => "floating point " ++ inBackticks n.text
  | _ => "integer " ++ inBackticks n.text

/-- How a message names what is there; a part without value has no name. -/
def found? : Document → Option String
  | .null => some "null"
  | .bool b => some ("boolean " ++ inBackticks (Text.shownBool b))
  | .number n => some (numberFound n)
  | .string s => some ("string " ++ Text.quoted s)
  | .list _ _ => some "sequence"
  | .record _ _ => some "map"
  | .unreadable => none
  | .broken => none

def mismatch (d : Document) (expected : String) : DecodeError :=
  match d.found? with
  | some found => .mismatch found expected
  | none => .malformed

def decodeString : Document → Decoded String
  | .string s => .ok s
  | d => .error (d.mismatch "a string")

def decodeBool : Document → Decoded Bool
  | .bool b => .ok b
  | d => .error (d.mismatch "a boolean")

def decodeNatural (bound : Nat) (name : String) : Document → Decoded Nat
  | .number (.natural n) =>
    if n < bound then .ok n else .error (.badValue (numberFound (.natural n)) name)
  | .number (.negative n) => .error (.badValue (numberFound (.negative n)) name)
  | d => .error (d.mismatch name)

def decodeInteger : Document → Decoded Int64
  | .number (.natural n) =>
    if n < Nat.pow 2 63 then .ok (Int64.ofNat n)
    else .error (.badValue (numberFound (.natural n)) "i64")
  | .number (.negative n) =>
    if n ≤ Nat.pow 2 63 then .ok (Int64.ofInt (-(n : Int)))
    else .error (.badValue (numberFound (.negative n)) "i64")
  | d => .error (d.mismatch "i64")

def decodeTimestamp : Document → Decoded Timestamp
  | .string s =>
    match Timestamp.read s with
    | .ok t => .ok t
    | .error e => .error (.badTimestamp e)
  | d => .error (d.mismatch "an RFC 3339 formatted date and time string")

def decodeItems (decode : Document → Decoded α) : List Document → Decoded (List α)
  | [] => .ok []
  | d :: rest =>
    match decode d with
    | .error e => .error e
    | .ok a => (decodeItems decode rest).map (a :: ·)

/-- All items first, then the end of the list. -/
def decodeList (src : Source) (decode : Document → Decoded α) : Document → Decoded (List α)
  | .list items closed => src.place <|
    match decodeItems decode items with
    | .error e => .error e
    | .ok xs => if closed then .ok xs else .error .malformed
  | d => .error (d.mismatch "a sequence")

def decodeMembers (decode : Document → Decoded α) :
    List (Option String × Document) → KeyedMap α → Decoded (KeyedMap α)
  | [], m => .ok m
  | (none, _) :: _, _ => .error .malformed
  | (some k, d) :: rest, m =>
    match decode d with
    | .error e => .error e
    | .ok a => decodeMembers decode rest (m.insert k a)

def decodeMap (src : Source) (decode : Document → Decoded α) : Document → Decoded (KeyedMap α)
  | .record fields closed => src.place <|
    match decodeMembers decode fields .empty with
    | .error e => .error e
    | .ok m => if closed then .ok m else .error .malformed
  | d => .error (d.mismatch "a map")

def decodeValue (d : Document) : Decoded Value :=
  match d.value? with
  | some v => .ok v
  | none => .error .malformed

end Document

end IdentitySync
