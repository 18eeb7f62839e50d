import IdentitySync.Decimal.Double
import IdentitySync.Collection.KeyedMap

/-!
JSON values. A `Json` keeps the members of an object as they come, a `Value` is one in which every
object has its keys once and in order, so that equal values are equal terms.
-/
namespace IdentitySync

inductive Number where
  | natural (n : Nat)
  | negative (n : Nat)
  | real (d : Decimal.Double)
deriving DecidableEq, Repr

inductive Json where
  | null
  | bool (b : Bool)
  | number (n : Number)
  | string (s : String)
  | list (items : List Json)
  | record (fields : List (String × Json))
deriving Repr, Inhabited

namespace Json

def natural (n : Nat) : Json := .number (.natural n)

def integer : Int → Json
  | .ofNat n => .number (.natural n)
  | .negSucc n => .number (.negative (n + 1))

def strings (xs : List String) : Json := .list (xs.map .string)

def optional (f : α → Json) : Option α → Json
  | none => .null
  | some a => f a

mutual

/-- Every object in the tree has strictly increasing keys. -/
def Canonical : Json → Prop
  | .list items => CanonicalItems items
  | .record fields => KeysIncrease fields ∧ CanonicalFields fields
  | _ => True

def CanonicalItems : List Json → Prop
  | [] => True
  | j :: rest => j.Canonical ∧ CanonicalItems rest

def CanonicalFields : List (String × Json) → Prop
  | [] => True
  | (_, j) :: rest => j.Canonical ∧ CanonicalFields rest

end

end Json

structure Value where
  json : Json
  canonical : json.Canonical

namespace Value

def null : Value := ⟨.null, trivial⟩

def bool (b : Bool) : Value := ⟨.bool b, trivial⟩

def number (n : Number) : Value := ⟨.number n, trivial⟩

def string (s : String) : Value := ⟨.string s, trivial⟩

theorem canonical_items (xs : List Value) : Json.CanonicalItems (xs.map json) := by
  induction xs with
  | nil => exact trivial
  | cons x xs ih => exact ⟨x.canonical, ih⟩

theorem canonical_fields (xs : List (String × Value)) :
    Json.CanonicalFields (xs.map fun p => (p.1, p.2.json)) := by
  induction xs with
  | nil => exact trivial
  | cons x xs ih => exact ⟨x.2.canonical, ih⟩

def list (xs : List Value) : Value := ⟨.list (xs.map json), canonical_items xs⟩

def record (m : KeyedMap Value) : Value :=
  ⟨.record (m.entries.map fun p => (p.1, p.2.json)),
    keysIncrease_map json m.increasing, canonical_fields m.entries⟩

def optional (f : α → Value) : Option α → Value
  | none => null
  | some a => f a

end Value

end IdentitySync
