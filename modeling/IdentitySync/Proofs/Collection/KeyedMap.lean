import IdentitySync.Collection.KeyedMap

/-!
What is in a map after entries were put into it. A key has one entry; in a map made of a list it has
the last of the entries with that key. Entries with keys of their own all stay, so a map is made
again from its entries in any order.
-/
namespace IdentitySync.KeyedMap

variable {α : Type}

theorem lookup_cons (k : String) (v : α) (entries : List (String × α)) (k' : String) :
    ((k, v) :: entries).lookup k' = if k' = k then some v else entries.lookup k' := by
  rw [List.lookup_cons]
  by_cases same : k' = k
  · rw [if_pos same, beq_iff_eq.mpr same]
  · rw [if_neg same, beq_eq_false_iff_ne.mpr same]

theorem lookup_insertEntry (k : String) (v : α) (entries : List (String × α)) (k' : String) :
    (insertEntry k v entries).lookup k' = if k' = k then some v else entries.lookup k' := by
  induction entries with
  | nil => exact lookup_cons k v [] k'
  | cons head rest ih =>
    obtain ⟨k₁, v₁⟩ := head
    rw [insertEntry]
    split
    · exact lookup_cons k v _ k'
    · split
      · rename_i taken
        rw [lookup_cons, lookup_cons, taken]
        by_cases same : k' = k₁
        · rw [if_pos same, if_pos same]
        · rw [if_neg same, if_neg same, if_neg same]
      · rename_i _ other
        rw [lookup_cons, lookup_cons, ih]
        by_cases same : k' = k₁
        · rw [if_pos same, if_neg fun own => other (own.symm.trans same), if_pos same]
        · rw [if_neg same, if_neg same]

theorem get?_insert (m : KeyedMap α) (k : String) (v : α) (k' : String) :
    (m.insert k v).get? k' = if k' = k then some v else m.get? k' :=
  lookup_insertEntry k v m.entries k'

theorem get?_foldl (entries : List (String × α)) (m : KeyedMap α) (k : String) :
    (entries.foldl (fun m p => m.insert p.1 p.2) m).get? k =
      (entries.reverse.lookup k).or (m.get? k) := by
  induction entries generalizing m with
  | nil => rfl
  | cons p rest ih =>
    rw [List.foldl_cons, ih, get?_insert, List.reverse_cons, List.lookup_append, lookup_cons,
      Option.or_assoc]
    by_cases same : k = p.1
    · rw [if_pos same, if_pos same, Option.some_or]
    · rw [if_neg same, if_neg same, List.lookup_nil, Option.none_or]

theorem get?_ofList (entries : List (String × α)) (k : String) :
    (ofList entries).get? k = entries.reverse.lookup k := by
  rw [ofList, get?_foldl]
  exact Option.or_none

theorem keys_nodup (m : KeyedMap α) : (m.entries.map Prod.fst).Nodup := by
  rw [List.Nodup, List.pairwise_map]
  exact m.increasing.imp String.ne_of_lt

theorem entries_nodup (m : KeyedMap α) : m.entries.Nodup :=
  m.increasing.imp fun lt same => String.ne_of_lt lt (congrArg Prod.fst same)

theorem mem_entries_iff (m : KeyedMap α) (k : String) (v : α) :
    (k, v) ∈ m.entries ↔ m.get? k = some v := by
  rw [get?, List.lookup_eq_some_iff]
  constructor
  · intro own
    obtain ⟨before, after, parts⟩ := List.append_of_mem own
    refine ⟨before, after, parts, fun p hp => ?_⟩
    have distinct := m.keys_nodup
    rw [parts, List.map_append, List.map_cons, List.nodup_append] at distinct
    rw [bne_iff_ne]
    exact (distinct.2.2 p.1 (List.mem_map_of_mem hp) k List.mem_cons_self).symm
  · rintro ⟨before, after, parts, _⟩
    rw [parts]
    exact List.mem_append_right _ List.mem_cons_self

theorem mem_keys_iff (m : KeyedMap α) (k : String) : k ∈ m.keys ↔ ∃ v, m.get? k = some v := by
  rw [keys, List.mem_map]
  constructor
  · rintro ⟨⟨k, v⟩, own, rfl⟩
    exact ⟨v, (m.mem_entries_iff k v).mp own⟩
  · rintro ⟨v, found⟩
    exact ⟨(k, v), (m.mem_entries_iff k v).mpr found, rfl⟩

theorem contains_iff (m : KeyedMap α) (k : String) : m.contains k = true ↔ ∃ v, m.get? k = some v :=
  Option.isSome_iff_exists

theorem mem_before_iff {m : KeyedMap α} {before after : List (String × α)} {p : String × α}
    (parts : m.entries = before ++ p :: after) (q : String × α) :
    q ∈ before ↔ q ∈ m.entries ∧ q.1 < p.1 := by
  have increasing := m.increasing
  rw [parts] at increasing ⊢
  obtain ⟨_, later, across⟩ := List.pairwise_append.mp increasing
  constructor
  · intro first
    exact ⟨List.mem_append_left _ first, across q first p List.mem_cons_self⟩
  · intro ⟨own, less⟩
    rcases List.mem_append.mp own with first | rest
    · exact first
    · rcases List.mem_cons.mp rest with rfl | last
      · exact absurd less (String.lt_irrefl _)
      · have more := (List.pairwise_cons.mp later).1 q last
        exact absurd (String.lt_trans less more) (String.lt_irrefl _)

theorem insertEntry_perm (k : String) (v : α) (entries : List (String × α))
    (new : k ∉ entries.map Prod.fst) : (insertEntry k v entries).Perm ((k, v) :: entries) := by
  induction entries with
  | nil => exact .refl _
  | cons head rest ih =>
    obtain ⟨k', v'⟩ := head
    simp only [List.map_cons, List.mem_cons, not_or] at new
    simp only [insertEntry]
    split
    · exact .refl _
    · rw [if_neg new.1]
      exact ((ih new.2).cons _).trans (.swap ..)

theorem foldl_insert_perm (entries : List (String × α)) (m : KeyedMap α)
    (distinct : ((m.entries ++ entries).map Prod.fst).Nodup) :
    (entries.foldl (fun m p => m.insert p.1 p.2) m).entries.Perm (m.entries ++ entries) := by
  induction entries generalizing m with
  | nil =>
    rw [List.append_nil]
    exact .refl _
  | cons p rest ih =>
    have first := (List.perm_middle.map Prod.fst).nodup_iff.mp distinct
    rw [List.map_cons, List.nodup_cons, List.map_append, List.mem_append, not_or] at first
    have put := insertEntry_perm p.1 p.2 m.entries first.1.1
    have order : ((m.insert p.1 p.2).entries ++ rest).Perm (m.entries ++ p :: rest) :=
      (put.append_right rest).trans List.perm_middle.symm
    exact (ih _ ((order.map Prod.fst).nodup_iff.mpr distinct)).trans order

theorem eq_of_perm {m n : KeyedMap α} (order : m.entries.Perm n.entries) : m = n := by
  obtain ⟨own, increasing⟩ := m
  obtain ⟨others, increasing'⟩ := n
  have same : own = others := order.eq_of_pairwise
    (fun a b _ _ ab ba => absurd (String.lt_trans ab ba) (String.lt_irrefl _))
    increasing increasing'
  cases same
  rfl

theorem eq_of_get? {m n : KeyedMap α} (same : ∀ k, m.get? k = n.get? k) : m = n := by
  apply eq_of_perm
  apply (List.perm_ext_iff_of_nodup m.entries_nodup n.entries_nodup).mpr
  intro ⟨k, v⟩
  rw [mem_entries_iff, mem_entries_iff, same]

theorem get?_filter (m : KeyedMap α) (p : String → Bool) (k : String) :
    (m.filter fun k _ => p k).get? k = if p k = true then m.get? k else none := by
  apply Option.ext
  intro v
  rw [← mem_entries_iff, filter, List.mem_filter, mem_entries_iff]
  by_cases kept : p k = true
  · rw [if_pos kept]
    exact and_iff_left kept
  · rw [if_neg kept]
    simp only [kept, and_false, reduceCtorEq, Bool.false_eq_true]

theorem lookup_map {β : Type} (f : α → β) (entries : List (String × α)) (k : String) :
    (entries.map fun p => (p.1, f p.2)).lookup k = (entries.lookup k).map f := by
  induction entries with
  | nil => rfl
  | cons p rest ih =>
    rw [List.map_cons, lookup_cons, ih, lookup_cons]
    by_cases same : k = p.1
    · rw [if_pos same, if_pos same, Option.map_some]
    · rw [if_neg same, if_neg same]

theorem get?_map {β : Type} (f : α → β) (m : KeyedMap α) (k : String) :
    (m.map f).get? k = (m.get? k).map f := lookup_map f m.entries k

theorem keys_map {β : Type} (f : α → β) (m : KeyedMap α) : (m.map f).keys = m.keys :=
  List.map_map

theorem ofList_map {β : Type} (f : α → β) (entries : List (String × α)) :
    ofList (entries.map fun p => (p.1, f p.2)) = (ofList entries).map f := by
  apply eq_of_get?
  intro k
  rw [get?_map, get?_ofList, get?_ofList, ← List.map_reverse, lookup_map]

/-- Which keys a map has does not depend on what is put under them. -/
theorem keys_ofList {entries : List (String × α)} {keys : List String}
    (same : entries.map Prod.fst = keys) :
    (ofList entries).keys = (ofList (keys.map fun k => (k, ()))).keys := by
  rw [← same, List.map_map]
  exact (keys_map (fun _ => ()) _).symm.trans (congrArg KeyedMap.keys (ofList_map _ _).symm)

theorem get?_ofList_of_mem {entries : List (String × α)} (distinct : (entries.map Prod.fst).Nodup)
    {k : String} {v : α} (own : (k, v) ∈ entries) : (ofList entries).get? k = some v := by
  have order := foldl_insert_perm entries empty distinct
  exact ((ofList entries).mem_entries_iff k v).mp (order.mem_iff.mpr own)

theorem ofList_perm (m : KeyedMap α) {entries : List (String × α)}
    (order : entries.Perm m.entries) : ofList entries = m := by
  have distinct := (order.map Prod.fst).nodup_iff.mpr m.keys_nodup
  exact eq_of_perm ((foldl_insert_perm entries empty distinct).trans order)

end IdentitySync.KeyedMap
