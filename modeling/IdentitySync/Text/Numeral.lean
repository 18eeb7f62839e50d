/-!
Decimal numerals of natural numbers. `value? (digits n) = some n`; a reader takes one optional
plus sign and any number of leading zeros.
-/
namespace IdentitySync.Text

def digitChar (n : Nat) : Char := Char.ofNat (48 + n)

def digitValue? (c : Char) : Option Nat :=
  if 48 ≤ c.toNat ∧ c.toNat ≤ 57 then some (c.toNat - 48) else none

def isDigit (c : Char) : Bool := (digitValue? c).isSome

def digits (n : Nat) : List Char :=
  if n < 10 then [digitChar n] else digits (n / 10) ++ [digitChar (n % 10)]
termination_by n
decreasing_by omega

def numeral (n : Nat) : String := String.ofList (digits n)

def valueFrom? (acc : Nat) : List Char → Option Nat
  | [] => some acc
  | c :: cs => (digitValue? c).bind fun d => valueFrom? (acc * 10 + d) cs

def value? : List Char → Option Nat
  | [] => none
  | cs => valueFrom? 0 cs

def readBelow? (bound : Nat) (s : String) : Option Nat :=
  let read := match s.toList with
    | '+' :: cs => value? cs
    | cs => value? cs
  read.bind fun n => if n < bound then some n else none

def readWord32? (s : String) : Option UInt32 := (readBelow? UInt32.size s).map UInt32.ofNat

def readWord64? (s : String) : Option UInt64 := (readBelow? UInt64.size s).map UInt64.ofNat

def padded (width n : Nat) : List Char :=
  List.replicate (width - (digits n).length) '0' ++ digits n

end IdentitySync.Text
