import IdentitySync.Text.Blank
import IdentitySync.Text.Hexadecimal

/-!
Tables of characters (of Unicode 17), written as texts: code points in hexadecimal, with blanks or
line breaks between entries. A set lists points and spans, `5BF 5C1-5C2`. A table of images lists
points with the points that they become, joined by plus signs, and after commas the images of the
points that follow: `41:61,62` or `C6:61+65`. In a span the image moves on with the point,
`41-5A:61`, and with `/2` it is every second point that has one.
-/
namespace IdentitySync.Text

def hexNumber (cs : List Char) : Nat :=
  cs.foldl (fun n c => n * 16 + (hexValue? c).getD 0) 0

def entriesOf (s : String) : List (List Char) :=
  (pieces ' ' (s.toList.map fun c => if isBlank c then ' ' else c)).filter fun e => !e.isEmpty

/-- The first and the last point of a span; a single point is both. -/
def spanOf (cs : List Char) : Nat × Nat :=
  match splitFirst '-' cs with
  | some (first, last) => (hexNumber first, hexNumber last)
  | none => (hexNumber cs, hexNumber cs)

structure Spans where
  ranges : List (Nat × Nat)
deriving DecidableEq, Repr

namespace Spans

def ofText (s : String) : Spans := ⟨(entriesOf s).map spanOf⟩

def contains (s : Spans) (c : Char) : Bool := inRanges s.ranges c.toNat

end Spans

/-- Every `step`-th point of a span becomes `target`, moved on as far as the point is. -/
structure Image where
  first : Nat
  last : Nat
  step : Nat
  target : List Nat
deriving DecidableEq, Repr

namespace Image

def ofEntry (cs : List Char) : List Image :=
  match splitFirst ':' cs with
  | none => []
  | some (source, targets) =>
    let (span, step) := (splitFirst '/' source).getD (source, ['1'])
    let (first, last) := spanOf span
    let single : Bool := first = last
    (pieces ',' targets).zipIdx.map fun t =>
      ⟨first + t.2, if single then first + t.2 else last, hexNumber step,
        (pieces '+' t.1).map hexNumber⟩

def covers (i : Image) (n : Nat) : Bool :=
  decide (i.first ≤ n) && decide (n ≤ i.last) && (n - i.first) % i.step = 0

def moved (i : Image) (n : Nat) : List Char := i.target.map fun t => Char.ofNat (t + (n - i.first))

end Image

structure Images where
  images : List Image
deriving DecidableEq, Repr

namespace Images

def ofText (s : String) : Images := ⟨(entriesOf s).flatMap Image.ofEntry⟩

def image? (t : Images) (c : Char) : Option (List Char) :=
  (t.images.find? fun i => i.covers c.toNat).map fun i => i.moved c.toNat

end Images

end IdentitySync.Text
