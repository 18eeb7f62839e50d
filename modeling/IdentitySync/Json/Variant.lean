import IdentitySync.Json.Record

/-!
Types with several variants, each known by a name. Plain names stand for themselves; a tagged
variant has its name in a member beside its fields, or first in a list; an adjacent one has it
beside one member that holds all the rest, or first in a list of the two.
-/
namespace IdentitySync

def pickNamed (known : List (String × α)) (name : String) : Decoded α :=
  match known.lookup name with
  | some a => .ok a
  | none => .error (.unknownVariant name (known.map Prod.fst))

def decodeUnit (src : Source) : Document → Decoded Unit
  | .null => .ok ()
  | .record [] true =>
    if src = .aside then .ok () else .error (.mismatch "map" "unit")
  | d => .error (d.mismatch "unit")

/-- A name, or an object whose only member has the name for key and holds nothing. -/
def decodeName (known : List (String × α)) (src : Source) : Document → Decoded α
  | .string s => pickNamed known s
  | .record fields closed =>
    match src, fields with
    | .text, (some k, d) :: rest =>
      match pickNamed known k with
      | .error e => .error e
      | .ok a =>
        match decodeUnit src d with
        | .error e => .error e
        | .ok () => if closed && rest.isEmpty then .ok a else .error .malformed
    | .text, _ => .error .malformed
    | _, [(some k, d)] =>
      match pickNamed known k with
      | .error e => .error e
      | .ok a =>
        match decodeUnit src d with
        | .error e => .error e
        | .ok () => .ok a
    | _, _ => .error (.badValue "map" "map with a single key")
  | d =>
    match src with
    | .text => .error .malformed
    | _ => .error (d.mismatch "string or map")

def Codec.named (name : α → String) (all : List α) : Codec α :=
  ⟨fun a => .string (name a), decodeName (all.map fun a => (name a, a))⟩

abbrev Content (α : Type) := Document → Decoded α

def Content.fields (title : String) (fs : Fields τ σ) (make : τ → α) : Content α :=
  fun d => (fs.decode title .aside d).map make

def Content.nothing (a : α) : Content α
  | .list items _ => if items.isEmpty then .ok a
    else .error (.badLength items.length (elements 0 ++ " in sequence"))
  | _ => .ok a

def decodeTag (known : List (String × α)) : Document → Decoded α
  | .string s => pickNamed known s
  | d => .error (d.mismatch "variant identifier")

def takeTag (tag : String) (known : List (String × α)) :
    List (Option String × Document) → Option α →
      Decoded (Option α × List (Option String × Document))
  | [], seen => .ok (seen, [])
  | (none, _) :: _, _ => .error .malformed
  | (some k, d) :: rest, seen =>
    if k = tag then
      if seen.isSome then .error (.duplicateField tag)
      else match decodeTag known d with
        | .error e => .error e
        | .ok a => takeTag tag known rest (some a)
    else if d.readable then
      (takeTag tag known rest seen).map fun r => (r.1, (some k, d) :: r.2)
    else .error .malformed

def splitTag (title tag : String) (known : List (String × α)) : Document → Decoded (α × Document)
  | .record fields closed =>
    match takeTag tag known fields none with
    | .error e => .error e
    | .ok (seen, rest) =>
      if !closed then .error .malformed
      else match seen with
        | some a => .ok (a, .record rest true)
        | none => .error (.missingField tag)
  | .list [] closed => .error (if closed then .missingField tag else .malformed)
  | .list (d :: rest) closed =>
    match decodeTag known d with
    | .error e => .error e
    | .ok a =>
      if closed && Document.readableItems rest then .ok (a, .list rest true)
      else .error .malformed
  | d => .error (d.mismatch title)

/-- The codec of a type whose variants have a tag among their members. -/
def Codec.tagged (title tag : String) (variants : List (String × Content α))
    (encode : α → String × List (String × Json)) : Codec α :=
  ⟨fun a => .record ((tag, .string (encode a).1) :: (encode a).2),
    fun src d =>
      match src.place (splitTag ("internally tagged enum " ++ title) tag variants d) with
      | .error e => .error e
      | .ok (content, rest) => content rest⟩

def nextRelevant (tag content : String) (closed : Bool) :
    List (Option String × Document) →
      Decoded (Option (Bool × Document × List (Option String × Document)))
  | [] => if closed then .ok none else .error .malformed
  | (none, _) :: _ => .error .malformed
  | (some k, d) :: rest =>
    if k = tag then .ok (some (true, d, rest))
    else if k = content then .ok (some (false, d, rest))
    else if d.intact then nextRelevant tag content closed rest
    else .error .malformed

def noneRelevant (tag content : String) (closed : Bool)
    (fields : List (Option String × Document)) (a : α) : Decoded α :=
  match nextRelevant tag content closed fields with
  | .error e => .error e
  | .ok none => .ok a
  | .ok (some (isTag, _)) => .error (.duplicateField (if isTag then tag else content))

abbrev Reader (α : Type) := Source → Document → Decoded α

def decodeAdjacentMembers (tag content : String) (variants : List (String × Reader α))
    (src : Source) (fields : List (Option String × Document)) (closed : Bool) : Decoded α :=
  match nextRelevant tag content closed fields with
  | .error e => .error e
  | .ok none => .error (.missingField tag)
  | .ok (some (true, name, rest)) =>
    match decodeName variants src name with
    | .error e => .error e
    | .ok reader =>
      match nextRelevant tag content closed rest with
      | .error e => .error e
      | .ok none => .error (.missingField content)
      | .ok (some (true, _, _)) => .error (.duplicateField tag)
      | .ok (some (false, d, rest)) =>
        match reader src d with
        | .error e => .error e
        | .ok a => noneRelevant tag content closed rest a
  | .ok (some (false, d, rest)) =>
    if !d.readable then .error .malformed
    else match nextRelevant tag content closed rest with
      | .error e => .error e
      | .ok none => .error (.missingField tag)
      | .ok (some (false, _, _)) => .error (.duplicateField content)
      | .ok (some (true, name, rest)) =>
        match decodeName variants src name with
        | .error e => .error e
        | .ok reader =>
          match reader .aside d with
          | .error e => .error e
          | .ok a => noneRelevant tag content closed rest a

/-- In a list the name is a text and nothing else. -/
def decodeAdjacentItems (title : String) (variants : List (String × Reader α)) (src : Source)
    (items : List Document) (closed : Bool) : Decoded α :=
  match items with
  | [] => .error (if closed then .badLength 0 title else .malformed)
  | name :: rest =>
    match decodeTag variants name with
    | .error e => .error e
    | .ok reader =>
      match rest with
      | [] => .error (if closed then .badLength 1 title else .malformed)
      | d :: _ =>
        match reader src d with
        | .error e => .error e
        | .ok a => checkEnd src items.length 2 closed a

def decodeAdjacent (title tag content : String) (variants : List (String × Reader α))
    (src : Source) : Document → Decoded α
  | .record fields closed =>
    src.place (decodeAdjacentMembers tag content variants src fields closed)
  | .list items closed => src.place (decodeAdjacentItems title variants src items closed)
  | d => .error (d.mismatch title)

/-- The codec of a type whose variants have one member for the name and one for the content. -/
def Codec.adjacent (title tag content : String) (variants : List (String × Reader α))
    (encode : α → String × Json) : Codec α :=
  ⟨fun a => .record [(tag, .string (encode a).1), (content, (encode a).2)],
    decodeAdjacent ("adjacently tagged enum " ++ title) tag content variants⟩

end IdentitySync
