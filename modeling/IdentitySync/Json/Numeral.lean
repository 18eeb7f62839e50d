import IdentitySync.Json.Basic
import IdentitySync.Decimal.Shortest

/-!
Numbers in JSON texts. Digits are taken into a 64-bit significand for as long as it holds them;
what does not fit only counts for the exponent. A number without fraction and exponent that fits
64 bits is whole (zero with a sign is not), every other one is a double.
-/
namespace IdentitySync

structure NumberText where
  negative : Bool
  whole : List Nat
  fraction : Option (List Nat)
  exponent : Option Int
deriving DecidableEq, Repr

namespace NumberText

def greatestWord : Nat := UInt64.size - 1

/-- Takes digits into a significand; gives it and the digits from the first that does not fit. -/
def absorb (acc : Nat) : List Nat → Nat × List Nat
  | [] => (acc, [])
  | d :: ds => if greatestWord < acc * 10 + d then (acc, d :: ds) else absorb (acc * 10 + d) ds

def double? (t : NumberText) : Option Decimal.Double :=
  let (a, left) := absorb 0 t.whole
  let places := t.fraction.getD []
  let (b, ignored) := absorb a places
  let used : Int := places.length - ignored.length
  let power : Int := left.length - used + t.exponent.getD 0
  (Decimal.ofDecimal? b power).map fun d => if t.negative then d.negate else d

def value? (t : NumberText) : Option Number :=
  let (n, left) := absorb 0 t.whole
  if t.fraction.isNone && t.exponent.isNone && left.isEmpty then
    if !t.negative then some (.natural n)
    else if 0 < n ∧ n ≤ Nat.pow 2 63 then some (.negative n)
    else t.double?.map .real
  else t.double?.map .real

end NumberText

def Number.text : Number → String
  | .natural n => Text.numeral n
  | .negative n => "-" ++ Text.numeral n
  | .real d => d.text

end IdentitySync
