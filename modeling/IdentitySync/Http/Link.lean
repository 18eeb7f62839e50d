import IdentitySync.Url.Basic

/-!
The next page in a `Link` header: the first entry with the relation `next` whose target is a URL
with a page number in its query.
-/
namespace IdentitySync.Http
open Text

def dropQuotes (cs : List Char) : List Char :=
  ((cs.dropWhile (· = '"')).reverse.dropWhile (· = '"')).reverse

def dropAngles (cs : List Char) : List Char :=
  ((cs.dropWhile (· = '<')).reverse.dropWhile (· = '>')).reverse

def isNextRelation (param : List Char) : Bool :=
  match dropStart? "rel=".toList (trimChars param) with
  | some relation => dropQuotes relation = "next".toList
  | none => false

def pageOf? (target : List Char) : Option UInt32 :=
  match Url.parse (String.ofList target) with
  | .error _ => none
  | .ok l => (l.pairs.lookup "page").bind readWord32?

def entryPage? (entry : List Char) : Option UInt32 :=
  match pieces ';' entry with
  | [] => none
  | target :: params =>
    if params.any isNextRelation then pageOf? (dropAngles (trimChars target)) else none

def nextPage? (header : String) : Option UInt32 := (pieces ',' header.toList).findSome? entryPage?

end IdentitySync.Http
