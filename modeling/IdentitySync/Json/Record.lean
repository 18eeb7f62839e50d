import IdentitySync.Json.Codec

/-!
Records with named fields. One is read from an object, member by member in the order in which they
stand, or from a list that holds the fields in order. A member that no field has is passed over;
fields that are not there are looked at last, in their order.
-/
namespace IdentitySync

/-- A field: its name, another name it may have when read, its form, and what it is when the object
    or the end of the list lacks it. -/
structure Field (α : Type) where
  name : String
  otherName : Option String
  encode : α → Option Json
  decode : Source → Document → Decoded α
  missing : Option α
  missingAtEnd : Option α

namespace Field

def required (name : String) (c : Codec α) : Field α :=
  ⟨name, none, fun a => some (c.encode a), c.decode, none, none⟩

def defaulted (name : String) (c : Codec α) (a : α) : Field α :=
  ⟨name, none, fun x => some (c.encode x), c.decode, some a, some a⟩

def nullable (name : String) (c : Codec α) : Field (Option α) := defaulted name c.option none

def optional (name : String) (c : Codec α) : Field (Option α) :=
  ⟨name, none, fun x => x.map c.encode, c.option.decode, some none, some none⟩

def answersTo (f : Field α) (key : String) : Bool := key = f.name || some key = f.otherName

end Field

/-- The fields of a record: `τ` are their values, `σ` what has been read of each. -/
inductive Fields : Type → Type → Type 1 where
  | nil : Fields Unit Unit
  | cons : Field α → Fields β σ → Fields (α × β) (Option α × σ)

namespace Fields

def blank : Fields τ σ → σ
  | .nil => ()
  | .cons _ rest => (none, rest.blank)

def put : Fields τ σ → Source → String → Document → σ → Option (Decoded σ)
  | .nil, _, _, _, _ => none
  | .cons f rest, src, key, d, (slot, slots) =>
    if f.answersTo key then
      some <| match slot with
        | some _ => .error (.duplicateField f.name)
        | none => (f.decode src d).map fun a => (some a, slots)
    else (rest.put src key d slots).map fun r => r.map fun slots => (slot, slots)

def fill (fs : Fields τ σ) (src : Source) : List (Option String × Document) → σ → Decoded σ
  | [], slots => .ok slots
  | (none, _) :: _, _ => .error .malformed
  | (some key, d) :: rest, slots =>
    match fs.put src key d slots with
    | some (.error e) => .error e
    | some (.ok slots) => fs.fill src rest slots
    | none => if d.intact then fs.fill src rest slots else .error .malformed

def ofSlot (f : Field α) : Option α → Decoded α
  | some a => .ok a
  | none =>
    match f.missing with
    | some a => .ok a
    | none => .error (.missingField f.name)

def gather : Fields τ σ → σ → Decoded τ
  | .nil, _ => .ok ()
  | .cons f rest, (slot, slots) =>
    match ofSlot f slot with
    | .error e => .error e
    | .ok a => (rest.gather slots).map fun b => (a, b)

def count : Fields τ σ → Nat
  | .nil => 0
  | .cons _ rest => rest.count + 1

/-- Reads fields from a list, with the number of those before and the words for the whole; gives
    them and what is left of the list. -/
def ofItems : Fields τ σ → Source → (expected : String) → (closed : Bool) → Nat →
    List Document → Decoded (τ × List Document)
  | .nil, _, _, _, _, items => .ok ((), items)
  | .cons f rest, src, expected, closed, n, [] =>
    if !closed then .error .malformed
    else match f.missingAtEnd with
      | none => .error (.badLength n expected)
      | some a =>
        (rest.ofItems src expected closed (n + 1) []).map fun r => ((a, r.1), r.2)
  | .cons f rest, src, expected, closed, n, d :: items =>
    match f.decode src d with
    | .error e => .error e
    | .ok a => (rest.ofItems src expected closed (n + 1) items).map fun r => ((a, r.1), r.2)

def encode : Fields τ σ → τ → List (String × Json)
  | .nil, _ => []
  | .cons f rest, (a, b) =>
    match f.encode a with
    | some j => (f.name, j) :: rest.encode b
    | none => rest.encode b

end Fields

def elements (n : Nat) : String :=
  Text.numeral n ++ (if n = 1 then " element" else " elements")

def checkEnd (src : Source) (total used : Nat) (closed : Bool) (a : α) : Decoded α :=
  if closed && total = used then .ok a
  else match src with
    | .text => .error .malformed
    | .value => .error (.badLength total "fewer elements in array")
    | .aside => .error (.badLength total (elements used ++ " in sequence"))

def Fields.decode (fs : Fields τ σ) (title : String) (src : Source) : Document → Decoded τ
  | .record fields closed => src.place <|
    match fs.fill src fields fs.blank with
    | .error e => .error e
    | .ok slots => if closed then fs.gather slots else .error .malformed
  | .list items closed => src.place <|
    match fs.ofItems src (title ++ " with " ++ elements fs.count) closed 0 items with
    | .error e => .error e
    | .ok (a, rest) => checkEnd src items.length (items.length - rest.length) closed a
  | d => .error (d.mismatch title)

def Codec.record (title : String) (fs : Fields τ σ) (view : α → τ) (make : τ → α) : Codec α :=
  ⟨fun a => .record (fs.encode (view a)), fun src d => (fs.decode title src d).map make⟩

end IdentitySync
