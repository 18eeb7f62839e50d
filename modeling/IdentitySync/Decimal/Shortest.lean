import IdentitySync.Decimal.Double
import IdentitySync.Text.Numeral

/-!
The decimal text of a double: the fewest digits that read back as it, and of those the nearest.
Numbers from 0.00001 up to below 10 ^ 16 are written positionally with at least one decimal place,
all others with an exponent that always has its sign when positive.
-/
namespace IdentitySync.Decimal
open Text

/-- Digits `d` and a power of ten: the number `d * 10 ^ power`. -/
structure Digits where
  value : Nat
  power : Int
deriving DecidableEq, Repr

/-- The interval of numbers that round to the double, doubled twice to stay among whole units:
    lower end, upper end and middle in quarters of its unit. -/
def quarters (d : Double) : Nat × Nat × Nat :=
  let m := d.significand
  let low := if m = Nat.pow 2 52 ∧ leastExponent < d.exponent then 4 * m - 1 else 4 * m - 2
  (low, 4 * m, 4 * m + 2)

def readsBack (d : Double) (n : Nat) (p : Int) : Bool :=
  let (low, _, high) := quarters d
  let unit := twoTo (d.exponent - 2)
  let left := n * Nat.pow 10 p.toNat * unit.2
  let scale := unit.1 * Nat.pow 10 (-p).toNat
  if d.significand % 2 = 0 then decide (low * scale ≤ left) && decide (left ≤ high * scale)
  else decide (low * scale < left) && decide (left < high * scale)

def leadingPower (num den : Nat) : Int :=
  if den ≤ num then (digits (num / den)).length - 1
  else
    let q := den / num
    let n := (digits q).length
    if Nat.pow 10 (n - 1) * num = den then -((n : Int) - 1) else -(n : Int)

def withDigits (d : Double) (lead : Int) (count : Nat) : Option Digits :=
  let p := lead + 1 - count
  let num := d.quotient.1 * Nat.pow 10 (-p).toNat
  let den := d.quotient.2 * Nat.pow 10 p.toNat
  let below := num / den
  let rest := num % den
  let first := if 2 * rest < den ∨ (2 * rest = den ∧ below % 2 = 0) then below else below + 1
  let second := if first = below then below + 1 else below
  if readsBack d first p then some ⟨first, p⟩
  else if readsBack d second p then some ⟨second, p⟩
  else none

def shortestFrom (d : Double) (lead : Int) : Nat → Nat → Digits
  | 0, count => (withDigits d lead count).getD ⟨0, 0⟩
  | more + 1, count =>
    match withDigits d lead count with
    | some r => r
    | none => shortestFrom d lead more (count + 1)

/-- Seventeen digits always suffice. -/
def shortest (d : Double) : Digits :=
  shortestFrom d (leadingPower d.quotient.1 d.quotient.2) 17 1

def dropEndZeros (cs : List Char) : List Char := (cs.reverse.dropWhile (· = '0')).reverse

def zeros (n : Nat) : List Char := List.replicate n '0'

/-- Lays out the digits; `point` is the place of the decimal point counted from their start. -/
def layOut (cs : List Char) (point : Int) : List Char :=
  let n : Int := cs.length
  if n ≤ point ∧ point ≤ 16 then cs ++ zeros (point - n).toNat ++ ['.', '0']
  else if 0 < point ∧ point ≤ 16 then cs.take point.toNat ++ '.' :: cs.drop point.toNat
  else if -5 < point ∧ point ≤ 0 then ['0', '.'] ++ zeros (-point).toNat ++ cs
  else
    let power := point - 1
    let sign := if power < 0 then ['-'] else ['+']
    let mantissa := match cs with
      | c :: rest => if rest.isEmpty then [c] else c :: '.' :: rest
      | [] => []
    mantissa ++ 'e' :: (sign ++ digits power.natAbs)

def Double.text (d : Double) : String :=
  let body :=
    if d.significand = 0 then ['0', '.', '0']
    else
      let r := shortest d
      let cs := digits r.value
      layOut (dropEndZeros cs) (cs.length + r.power)
  String.ofList (if d.negative then '-' :: body else body)

end IdentitySync.Decimal
