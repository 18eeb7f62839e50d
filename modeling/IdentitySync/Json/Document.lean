import IdentitySync.Json.Basic

/-!
A JSON text as it was read. Reading goes from left to right, so a text that stops being JSON still
has everything before that place: the lists and objects that were open there are not closed, and a
member that had only its key is broken. Some parts are well formed and yet have no value (a string
with half a surrogate pair, a number out of range, nesting beyond the limit); they matter only to
a reader that needs the value, so they stand in the document as unreadable.
-/
namespace IdentitySync

inductive Document where
  | null
  | bool (b : Bool)
  | number (n : Number)
  | string (s : String)
  | list (items : List Document) (closed : Bool)
  | record (fields : List (Option String × Document)) (closed : Bool)
  | unreadable
  | broken
deriving Repr, Inhabited

mutual

def Json.document : Json → Document
  | .null => .null
  | .bool b => .bool b
  | .number n => .number n
  | .string s => .string s
  | .list items => .list (Json.documents items) true
  | .record fields => .record (Json.documentFields fields) true

def Json.documents : List Json → List Document
  | [] => []
  | j :: rest => j.document :: Json.documents rest

def Json.documentFields : List (String × Json) → List (Option String × Document)
  | [] => []
  | (k, j) :: rest => (some k, j.document) :: Json.documentFields rest

end

theorem Json.documents_eq_map (items : List Json) :
    Json.documents items = items.map Json.document := by
  induction items with
  | nil => rfl
  | cons j rest ih => simp only [Json.documents, List.map_cons, ih]

theorem Json.documentFields_eq_map (fields : List (String × Json)) :
    Json.documentFields fields = fields.map fun p => (some p.1, p.2.document) := by
  induction fields with
  | nil => rfl
  | cons p rest ih => simp only [Json.documentFields, List.map_cons, ih]

namespace Document

mutual

def intact : Document → Bool
  | .list items closed => closed && intactItems items
  | .record fields closed => closed && intactFields fields
  | .broken => false
  | _ => true

def intactItems : List Document → Bool
  | [] => true
  | d :: rest => d.intact && intactItems rest

def intactFields : List (Option String × Document) → Bool
  | [] => true
  | (_, d) :: rest => d.intact && intactFields rest

end

mutual

def readable : Document → Bool
  | .list items closed => closed && readableItems items
  | .record fields closed => closed && readableFields fields
  | .broken => false
  | .unreadable => false
  | _ => true

def readableItems : List Document → Bool
  | [] => true
  | d :: rest => d.readable && readableItems rest

def readableFields : List (Option String × Document) → Bool
  | [] => true
  | (k, d) :: rest => k.isSome && d.readable && readableFields rest

end

mutual

/-- The value of a readable document: of members with one key the last stays. -/
def value? : Document → Option Value
  | .null => some .null
  | .bool b => some (.bool b)
  | .number n => some (.number n)
  | .string s => some (.string s)
  | .list items closed => if closed then (values? items).map .list else none
  | .record fields closed => if closed then (members? fields .empty).map .record else none
  | .unreadable => none
  | .broken => none

def values? : List Document → Option (List Value)
  | [] => some []
  | d :: rest => (value? d).bind fun v => (values? rest).map (v :: ·)

def members? : List (Option String × Document) → KeyedMap Value → Option (KeyedMap Value)
  | [], m => some m
  | (none, _) :: _, _ => none
  | (some k, d) :: rest, m => (value? d).bind fun v => members? rest (m.insert k v)

end

end Document

end IdentitySync
