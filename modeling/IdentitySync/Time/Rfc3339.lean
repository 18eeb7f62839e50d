import IdentitySync.Text.Blank
import IdentitySync.Text.Numeral
import IdentitySync.Time.Timestamp

/-!
Timestamps as texts. Writing follows RFC 3339 with no fraction or one of three, six or nine digits.
Reading is lenient: blanks between the parts, fields of one digit, a blank or a small `t` before
the time, any sign and length of the year, an offset without colon, and `UTC`.
-/
namespace IdentitySync.Time
open Text

inductive TimestampError where
  | tooShort
  | badCharacter
  | outOfRange
  | impossible
  | trailing
deriving DecidableEq, Repr

def TimestampError.message : TimestampError → String
  | .tooShort => "premature end of input"
  | .badCharacter => "input contains invalid characters"
  | .outOfRange => "input is out of range"
  | .impossible => "no possible date and time matching input"
  | .trailing => "trailing input"

abbrev Read := Except TimestampError

def readNumber (most : Nat) (cs : List Char) : Read (Nat × List Char) :=
  match cs with
  | [] => .error .tooShort
  | _ =>
    let ds := (cs.take most).takeWhile isDigit
    match value? ds with
    | none => .error .badCharacter
    | some n => .ok (n, cs.drop ds.length)

def readField (least greatest : Nat) (cs : List Char) : Read (Nat × List Char) :=
  match readNumber 2 (trimStartChars cs) with
  | .error e => .error e
  | .ok (n, rest) => if least ≤ n ∧ n ≤ greatest then .ok (n, rest) else .error .outOfRange

def greatestYear : Int := 2147483647

def leastYear : Int := -2147483648

def yearWithin (y : Int) (rest : List Char) : Read (Int × List Char) :=
  if leastYear ≤ y ∧ y ≤ greatestYear then .ok (y, rest) else .error .outOfRange

/-- Four digits at most, or a sign and any number of digits. -/
def readYear (cs : List Char) : Read (Int × List Char) :=
  match trimStartChars cs with
  | '-' :: rest =>
    match readNumber rest.length rest with
    | .error e => .error e
    | .ok (n, rest) => yearWithin (-(n : Int)) rest
  | '+' :: rest =>
    match readNumber rest.length rest with
    | .error e => .error e
    | .ok (n, rest) => yearWithin n rest
  | cs =>
    match readNumber 4 cs with
    | .error e => .error e
    | .ok (n, rest) => yearWithin n rest

def readMark (mark : Char) (cs : List Char) : Read (List Char) :=
  match trimStartChars cs with
  | [] => .error .tooShort
  | c :: rest => if c = mark then .ok rest else .error .badCharacter

def readDate (cs : List Char) : Read ((Int × Nat × Nat) × List Char) := do
  let (year, cs) ← readYear cs
  let cs ← readMark '-' cs
  let (month, cs) ← readField 1 12 cs
  let cs ← readMark '-' cs
  let (day, cs) ← readField 1 31 cs
  .ok ((year, month, day), cs)

def readSeparator : List Char → Read (List Char)
  | [] => .error .tooShort
  | c :: rest => if c = 't' ∨ c = 'T' ∨ c = ' ' then .ok rest else .error .badCharacter

/-- Nanoseconds from a fraction; digits after the ninth are passed over. -/
def readFraction : List Char → Read (Nat × List Char)
  | '.' :: cs =>
    match readNumber 9 cs with
    | .error e => .error e
    | .ok (n, rest) => .ok (n * Nat.pow 10 (9 - (cs.length - rest.length)), rest.dropWhile isDigit)
  | cs => .ok (0, cs)

/-- Hour, minute, second and nanosecond; the second may be 60. -/
def readTime (cs : List Char) : Read ((Nat × Nat × Nat × Nat) × List Char) := do
  let (hour, cs) ← readField 0 23 cs
  let cs ← readMark ':' cs
  let (minute, cs) ← readField 0 59 cs
  let cs ← readMark ':' cs
  let (second, cs) ← readField 0 60 cs
  let (nano, cs) ← readFraction cs
  .ok ((hour, minute, second, nano), trimStartChars cs)

def twoDigits : List Char → Read (Option Nat × Option Nat × List Char)
  | [] => .error .tooShort
  | [c] => if c.toNat < 128 then .error .tooShort else .error .badCharacter
  | a :: b :: rest => .ok (digitValue? a, digitValue? b, rest)

def readOffsetDigits (cs : List Char) : Read (Nat × List Char) := do
  let (a, b, cs) ← twoDigits cs
  match a, b with
  | some a, some b =>
    let cs := cs.dropWhile fun c => c = ':' || isBlank c
    let (c, d, cs) ← twoDigits cs
    match c, d with
    | some c, some d =>
      if c ≤ 5 then .ok ((a * 10 + b) * 3600 + (c * 10 + d) * 60, cs) else .error .outOfRange
    | _, _ => .error .badCharacter
  | _, _ => .error .badCharacter

def minusSign : Char := Char.ofNat 0x2212

def isUtc (cs : List Char) : Bool := (cs.take 3).map Char.toUpper = ['U', 'T', 'C']

def readOffset (cs : List Char) : Read (Int × List Char) :=
  if isUtc cs then .ok (0, cs.drop 3)
  else match cs with
    | [] => .error .tooShort
    | c :: rest =>
      if c = 'Z' ∨ c = 'z' then .ok (0, rest)
      else if c = '+' then (readOffsetDigits rest).map fun r => ((r.1 : Int), r.2)
      else if c = '-' ∨ c = minusSign then (readOffsetDigits rest).map fun r => (-(r.1 : Int), r.2)
      else .error .badCharacter

namespace Timestamp

def readChars (cs : List Char) : Read Timestamp := do
  let ((year, month, day), cs) ← readDate cs
  let cs ← readSeparator cs
  let ((hour, minute, second, nano), cs) ← readTime cs
  let (offset, cs) ← readOffset cs
  if !(trimStartChars cs).isEmpty then .error .trailing
  else match Date.of? year month day with
    | none => .error .outOfRange
    | some date =>
      if secondsPerDay ≤ offset.natAbs then .error .outOfRange
      else
        let leap := second = 60
        let ofDay := hour * 3600 + minute * 60 + (if leap then 59 else second)
        match ofLocal? date ofDay (if leap then nano + billion else nano) offset with
        | none => .error .impossible
        | some t => .ok t

def read (s : String) : Read Timestamp := readChars s.toList

def writeYear (y : Int) : List Char :=
  if 0 ≤ y ∧ y ≤ 9999 then padded 4 y.toNat
  else (if y < 0 then '-' else '+') :: padded 4 y.natAbs

def writeFraction (nano : Nat) : List Char :=
  if nano = 0 then []
  else if nano % 1000000 = 0 then '.' :: padded 3 (nano / 1000000)
  else if nano % 1000 = 0 then '.' :: padded 6 (nano / 1000)
  else '.' :: padded 9 nano

def writeChars (t : Timestamp) : List Char :=
  let leap := billion ≤ t.nano
  let second := t.second % 60 + (if leap then 1 else 0)
  let nano := if leap then t.nano - billion else t.nano
  writeYear t.date.year ++ '-' :: padded 2 t.date.month ++ '-' :: padded 2 t.date.day ++
    'T' :: padded 2 (t.second / 3600) ++ ':' :: padded 2 (t.second / 60 % 60) ++
    ':' :: padded 2 second ++ writeFraction nano

def text (t : Timestamp) : String := String.ofList (t.writeChars ++ ['Z'])

def textWithOffset (t : Timestamp) : String := String.ofList (t.writeChars ++ "+00:00".toList)

end Timestamp

end IdentitySync.Time
