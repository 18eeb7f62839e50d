/-!
Maps from texts, kept as entries in increasing order of their keys (by code point). Two maps with
the same entries are equal.
-/
namespace IdentitySync

def KeysIncrease (entries : List (String × α)) : Prop :=
  entries.Pairwise fun a b => a.1 < b.1

theorem keysIncrease_map (f : α → β) {entries : List (String × α)} (h : KeysIncrease entries) :
    KeysIncrease (entries.map fun p => (p.1, f p.2)) :=
  List.pairwise_map.mpr h

structure KeyedMap (α : Type) where
  entries : List (String × α)
  increasing : KeysIncrease entries

namespace KeyedMap

/-- Puts an entry in its place; an entry with the same key gives way. -/
def insertEntry (k : String) (v : α) : List (String × α) → List (String × α)
  | [] => [(k, v)]
  | (k', v') :: rest =>
    if k < k' then (k, v) :: (k', v') :: rest
    else if k = k' then (k, v) :: rest
    else (k', v') :: insertEntry k v rest

theorem mem_insertEntry {k : String} {v : α} {entries : List (String × α)} {p : String × α}
    (h : p ∈ insertEntry k v entries) : p.1 = k ∨ p ∈ entries := by
  induction entries with
  | nil => simp_all [insertEntry]
  | cons head rest ih =>
    obtain ⟨k', v'⟩ := head
    simp only [insertEntry] at h
    split at h
    · rcases List.mem_cons.mp h with rfl | h
      · exact .inl rfl
      · exact .inr h
    · split at h
      · rcases List.mem_cons.mp h with rfl | h
        · exact .inl rfl
        · exact .inr (List.mem_cons_of_mem _ h)
      · rcases List.mem_cons.mp h with rfl | h
        · exact .inr List.mem_cons_self
        · rcases ih h with h | h
          · exact .inl h
          · exact .inr (List.mem_cons_of_mem _ h)

theorem lt_of_not_lt_of_ne {a b : String} (h : ¬a < b) (hne : a ≠ b) : b < a :=
  Decidable.byContradiction fun hba => hne (String.le_antisymm (String.not_lt.mp hba)
    (String.not_lt.mp h))

theorem insertEntry_increasing (k : String) (v : α) {entries : List (String × α)}
    (h : KeysIncrease entries) : KeysIncrease (insertEntry k v entries) := by
  induction entries with
  | nil => exact List.pairwise_singleton _ _
  | cons head rest ih =>
    obtain ⟨k', v'⟩ := head
    obtain ⟨first, tail⟩ := List.pairwise_cons.mp h
    simp only [insertEntry]
    split
    · rename_i lt
      refine List.pairwise_cons.mpr ⟨fun p hp => ?_, h⟩
      rcases List.mem_cons.mp hp with rfl | hp
      · exact lt
      · exact String.lt_trans lt (first p hp)
    · split
      · rename_i eq
        subst eq
        exact List.pairwise_cons.mpr ⟨first, tail⟩
      · rename_i nlt ne
        refine List.pairwise_cons.mpr ⟨fun p hp => ?_, ih tail⟩
        rcases mem_insertEntry hp with hp | hp
        · exact hp ▸ lt_of_not_lt_of_ne nlt ne
        · exact first p hp

def empty : KeyedMap α := ⟨[], List.Pairwise.nil⟩

instance : Inhabited (KeyedMap α) := ⟨empty⟩

def insert (m : KeyedMap α) (k : String) (v : α) : KeyedMap α :=
  ⟨insertEntry k v m.entries, insertEntry_increasing k v m.increasing⟩

/-- Of entries with one key the last stays. -/
def ofList (entries : List (String × α)) : KeyedMap α :=
  entries.foldl (fun m p => m.insert p.1 p.2) empty

def get? (m : KeyedMap α) (k : String) : Option α := m.entries.lookup k

def contains (m : KeyedMap α) (k : String) : Bool := (m.get? k).isSome

def keys (m : KeyedMap α) : List String := m.entries.map Prod.fst

theorem filter_increasing (p : String × α → Bool) (m : KeyedMap α) :
    KeysIncrease (m.entries.filter p) := List.Pairwise.filter p m.increasing

def map (f : α → β) (m : KeyedMap α) : KeyedMap β :=
  ⟨m.entries.map fun p => (p.1, f p.2), keysIncrease_map f m.increasing⟩

def filter (p : String → α → Bool) (m : KeyedMap α) : KeyedMap α :=
  ⟨m.entries.filter fun e => p e.1 e.2, m.filter_increasing _⟩

end KeyedMap

end IdentitySync
