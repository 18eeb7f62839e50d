/-!
Finite double-precision numbers as exact binary fractions, and rounding of a quotient of natural
numbers to the nearest of them (a tie goes to the even significand). The value is
`significand * 2 ^ exponent`, where the significand is below `2 ^ 53`, the exponent is at least
`-1074`, and one of the two is as large, respectively as small, as it can be.
-/
namespace IdentitySync.Decimal

structure Double where
  negative : Bool
  significand : Nat
  exponent : Int
deriving DecidableEq, Repr, Inhabited

def leastExponent : Int := -1074

def greatestExponent : Int := 971

def Double.zero (negative : Bool) : Double := ⟨negative, 0, leastExponent⟩

def Double.negate (d : Double) : Double := { d with negative := !d.negative }

def twoTo (e : Int) : Nat × Nat := (Nat.pow 2 e.toNat, Nat.pow 2 (-e).toNat)

/-- The nearest natural number to a quotient, a tie going to the even neighbour. -/
def nearest (num den : Nat) : Nat :=
  let q := num / den
  let r := num % den
  if den < 2 * r ∨ (2 * r = den ∧ q % 2 = 1) then q + 1 else q

def unitExponent (num den : Nat) : Int :=
  let e : Int := (num.log2 : Int) - den.log2 - 53
  let unit := twoTo e
  let fit := if Nat.pow 2 53 * (den * unit.1) ≤ num * unit.2 then e + 1 else e
  max leastExponent fit

/-- The nearest double to `num / den`; nothing when that is beyond the greatest one. -/
def ofQuotient? (num den : Nat) : Option Double :=
  if num = 0 then some (.zero false)
  else
    let e := unitExponent num den
    let unit := twoTo e
    let m := nearest (num * unit.2) (den * unit.1)
    let r : Double := if m = Nat.pow 2 53 then ⟨false, Nat.pow 2 52, e + 1⟩ else ⟨false, m, e⟩
    if greatestExponent < r.exponent then none else some r

def Double.quotient (d : Double) : Nat × Nat :=
  let unit := twoTo d.exponent
  (d.significand * unit.1, unit.2)

def powerOfTen (k : Nat) : Double := (ofQuotient? (Nat.pow 10 k) 1).getD (.zero false)

def Double.times? (a b : Double) : Option Double :=
  ofQuotient? (a.quotient.1 * b.quotient.1) (a.quotient.2 * b.quotient.2)

def Double.over? (a b : Double) : Option Double :=
  ofQuotient? (a.quotient.1 * b.quotient.2) (a.quotient.2 * b.quotient.1)

/-- Division by `10 ^ k`, by `10 ^ 308` as long as more than that is left. -/
def Double.overTenTo? (d : Double) (k : Nat) : Option Double :=
  if k ≤ 308 then d.over? (powerOfTen k)
  else if d.significand = 0 then some d
  else (d.over? (powerOfTen 308)).bind fun e => e.overTenTo? (k - 308)
termination_by k
decreasing_by omega

/-- `significand * 10 ^ exponent` in rounded steps: first the significand, then its product with
    (or quotient by) the rounded power of ten. Nothing when it is too large. -/
def ofDecimal? (significand : Nat) (exponent : Int) : Option Double :=
  (ofQuotient? significand 1).bind fun d =>
    if exponent < 0 then d.overTenTo? (-exponent).toNat
    else if exponent ≤ 308 then d.times? (powerOfTen exponent.toNat)
    else if d.significand = 0 then some d else none

end IdentitySync.Decimal
