import IdentitySync.Text.Composed
import IdentitySync.Url.Direction
import IdentitySync.Url.Joining
import IdentitySync.Url.NameMapping
import IdentitySync.Url.Punycode

/-!
Domain names in their ASCII form. A name is mapped and composed and cut at its full stops. A label
that says it is encoded is decoded, and has to be what mapping and composing leaves alone. Labels
do not start with a mark, their joiners fit and so do their directions.
-/
namespace IdentitySync.Url
open Text

/-- ASCII characters that no domain name has, controls and the space aside. -/
def deniedInDomain : List Char := ['%', '#', '/', ':', '<', '>', '?', '@', '[', '\\', ']', '^', '|']

def isDenied (c : Char) : Bool :=
  decide (c.toNat ≤ 32) || c.toNat = 127 || deniedInDomain.contains c

def isAscii (c : Char) : Bool := decide (c.toNat < 128)

/-- The composed images of characters; nothing when one of them has no place in a name. -/
def nameImages? (cs : List Char) : Option (List (List Char)) := cs.mapM nameImage?

def mappedName? (cs : List Char) : Option (List Char) :=
  (nameImages? cs).bind fun images =>
    let name := composed images.flatten
    if name.any isDenied then none else some name

def isMapped (cs : List Char) : Bool :=
  match nameImages? cs with
  | none => false
  | some images =>
    images.all (fun i => !i.isEmpty) && composed images.flatten = cs &&
      cs.all fun c => c ≠ '.' && !isDenied c

def encodedMark : List Char := ['x', 'n', '-', '-']

def longestCode : Nat := 2000

def longestLabel : Nat := 1000

/-- The label that a code stands for, which always has a character outside ASCII. -/
def decodedLabel? (code : List Char) : Option (List Char) :=
  if !code.all isAscii || longestCode < code.length || code.isEmpty || code.getLast? = some '-' then
    none
  else (Punycode.decode code).bind fun cs => if isMapped cs then some cs else none

def labelOf? (cs : List Char) : Option (List Char) :=
  match dropStart? encodedMark cs with
  | some code => decodedLabel? code
  | none => some cs

def isLabel (cs : List Char) : Bool :=
  cs.all isAscii ||
    (!(cs.head?.any isMark) && joinersFit [] cs && decide (cs.length ≤ longestLabel))

def asciiLabel (cs : List Char) : List Char :=
  if cs.all isAscii then cs else encodedMark ++ Punycode.encode cs

def joinWith (sep : Char) : List (List Char) → List Char
  | [] => []
  | [p] => p
  | p :: rest => p ++ sep :: joinWith sep rest

def asciiDomain? (cs : List Char) : Option (List Char) :=
  (mappedName? cs).bind fun name =>
    ((pieces '.' name).mapM labelOf?).bind fun labels =>
      if labels.all isLabel && directionsFit labels then
        some (joinWith '.' (labels.map asciiLabel))
      else none

end IdentitySync.Url
