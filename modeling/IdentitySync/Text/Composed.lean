import IdentitySync.Text.Combining
import IdentitySync.Text.Decomposition

/-!
The composed form of a text (Unicode's form C). Characters are decomposed as far as they go, the
marks after each are put in the order of their classes, and then whatever composes is composed.
-/
namespace IdentitySync.Text

def firstSyllable : Nat := 0xAC00

def leadJamo : Nat := 0x1100

def vowelJamo : Nat := 0x1161

/-- The one before the first tail, which stands for none. -/
def tailJamo : Nat := 0x11A7

def isSyllable (n : Nat) : Bool := decide (firstSyllable ≤ n) && decide (n < firstSyllable + 11172)

def syllableParts (n : Nat) : List Char :=
  let i := n - firstSyllable
  [Char.ofNat (leadJamo + i / 588), Char.ofNat (vowelJamo + i % 588 / 28)] ++
    if i % 28 = 0 then [] else [Char.ofNat (tailJamo + i % 28)]

def decompositionDepth : Nat := 3

def decomposedIn (steps : Nat) (c : Char) : List Char :=
  match steps with
  | 0 => [c]
  | steps + 1 =>
    match decompositions.image? c with
    | some (first :: rest) => decomposedIn steps first ++ rest
    | _ => [c]

def decomposed (c : Char) : List Char :=
  if c.toNat < 0xC0 then [c]
  else if isSyllable c.toNat then syllableParts c.toNat
  else decomposedIn decompositionDepth c

abbrev Ranked := Char × Nat

def ranked (c : Char) : Ranked := (c, combiningClass c)

/-- Puts a mark behind all that do not come after it; the characters before it are in reverse. -/
def place (r : Ranked) : List Ranked → List Ranked
  | [] => [r]
  | p :: rest => if 0 < r.2 ∧ r.2 < p.2 then p :: place r rest else r :: p :: rest

def ordered (rs : List Ranked) : List Ranked := (rs.foldl (fun done r => place r done) []).reverse

def composedSyllable? (a b : Nat) : Option Nat :=
  if leadJamo ≤ a ∧ a < leadJamo + 19 ∧ vowelJamo ≤ b ∧ b < vowelJamo + 21 then
    some (firstSyllable + (a - leadJamo) * 588 + (b - vowelJamo) * 28)
  else if isSyllable a ∧ (a - firstSyllable) % 28 = 0 ∧ tailJamo < b ∧ b < tailJamo + 28 then
    some (a + (b - tailJamo))
  else none

def compositions : List ((Nat × Nat) × Nat) :=
  decompositions.images.filterMap fun i =>
    match i.target with
    | [a, b] => if inRanges notComposed.ranges i.first then none else some ((a, b), i.first)
    | _ => none

def composedPair? (a b : Char) : Option Char :=
  if b.toNat < firstCombining then none
  else ((composedSyllable? a.toNat b.toNat).or (compositions.lookup (a.toNat, b.toNat))).map
    Char.ofNat

/-- Composes what follows the character `start`. The marks between that did not compose are in
    reverse; a mark of at least the class of the next one keeps it from composing. -/
def composeFrom (start : Char) (between : List Ranked) : List Ranked → List Char
  | [] => start :: (between.reverse.map Prod.fst)
  | (c, k) :: rest =>
    let blocked := between.head?.any fun b => k ≤ b.2
    match if blocked then none else composedPair? start c with
    | some joined => composeFrom joined between rest
    | none =>
      if k = 0 then start :: (between.reverse.map Prod.fst) ++ composeFrom c [] rest
      else composeFrom start ((c, k) :: between) rest

/-- Marks in front of everything else stay as they are. -/
def composeRanked : List Ranked → List Char
  | [] => []
  | (c, k) :: rest => if k = 0 then composeFrom c [] rest else c :: composeRanked rest

def composed (cs : List Char) : List Char :=
  composeRanked (ordered ((cs.flatMap decomposed).map ranked))

end IdentitySync.Text
