import IdentitySync.Json.Numeral

/-!
A JSON number under way: the place within it and its digits in reverse.
-/
namespace IdentitySync.Json

inductive Place where
  | sign
  | zero
  | whole
  | point
  | fraction
  | mark
  | power
deriving DecidableEq

structure NumberScan where
  place : Place
  negative : Bool
  whole : List Nat
  fraction : Option (List Nat)
  powerSign : Option Bool
  power : Option Nat

namespace NumberScan

def begin? (c : Char) : Option NumberScan :=
  if c = '-' then some ⟨.sign, true, [], none, none, none⟩
  else (Text.digitValue? c).map fun d =>
    ⟨if d = 0 then .zero else .whole, false, [d], none, none, none⟩

def complete (n : NumberScan) : Bool :=
  match n.place with
  | .zero | .whole | .fraction | .power => true
  | _ => false

def addDigit (n : NumberScan) (d : Nat) : Option NumberScan :=
  match n.place with
  | .sign => some { n with place := if d = 0 then .zero else .whole, whole := [d] }
  | .zero => none
  | .whole => some { n with whole := d :: n.whole }
  | .point | .fraction =>
    some { n with place := .fraction, fraction := some (d :: n.fraction.getD []) }
  | .mark | .power => some { n with place := .power, power := some (n.power.getD 0 * 10 + d) }

def isMark (c : Char) : Bool := c = 'e' || c = 'E'

def next (n : NumberScan) (c : Char) : Option NumberScan :=
  match Text.digitValue? c with
  | some d => n.addDigit d
  | none =>
    match n.place with
    | .zero | .whole =>
      if c = '.' then some { n with place := .point }
      else if isMark c then some { n with place := .mark }
      else none
    | .fraction => if isMark c then some { n with place := .mark } else none
    | .mark =>
      if n.powerSign.isSome then none
      else if c = '+' then some { n with powerSign := some true }
      else if c = '-' then some { n with powerSign := some false }
      else none
    | _ => none

def parts (n : NumberScan) : NumberText :=
  ⟨n.negative, n.whole.reverse, n.fraction.map List.reverse,
    n.power.map fun p => if n.powerSign = some false then -(p : Int) else (p : Int)⟩

end NumberScan

end IdentitySync.Json
