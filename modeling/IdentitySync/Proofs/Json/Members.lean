import IdentitySync.Proofs.Json.Shown

/-!
Records read from members in any order. Every member finds the slot of its own field, because no
earlier field answers to its name; a field that was left out gets what is missing. A record made of
faithful fields therefore has a faithful codec.
-/
namespace IdentitySync

/-- This one thing is read back from what the field writes of it; when the field writes nothing, it
    is what a missing member is read as. -/
structure Field.ReadsBack (f : Field α) (a : α) : Prop where
  shown : ∀ src j d, f.encode a = some j → j.ShownBy d → f.decode src d = .ok a
  missing : f.encode a = none → f.missing = some a

theorem Field.Faithful.readsBack {f : Field α} (h : f.Faithful) (a : α) : f.ReadsBack a :=
  ⟨fun src j d => h.shown src a j d, h.missing a⟩

namespace Fields

def names : Fields τ σ → List String
  | .nil => []
  | .cons f rest => f.name :: rest.names

def Faithful : Fields τ σ → Prop
  | .nil => True
  | .cons f rest => f.Faithful ∧ (∀ k ∈ rest.names, f.answersTo k = false) ∧ rest.Faithful

def ReadsBack : Fields τ σ → τ → Prop
  | .nil, _ => True
  | .cons f rest, (a, b) =>
    f.ReadsBack a ∧ (∀ k ∈ rest.names, f.answersTo k = false) ∧ rest.ReadsBack b

theorem Faithful.readsBack {fs : Fields τ σ} (h : fs.Faithful) (a : τ) : fs.ReadsBack a := by
  induction fs with
  | nil => trivial
  | cons f rest ih => exact ⟨h.1.readsBack a.1, h.2.1, ih h.2.2 a.2⟩

theorem encode_names (fs : Fields τ σ) (a : τ) :
    ((fs.encode a).map Prod.fst).Sublist fs.names := by
  induction fs with
  | nil => exact .slnil
  | cons f rest ih =>
    obtain ⟨x, b⟩ := a
    simp only [encode, names]
    cases f.encode x with
    | none => exact (ih b).cons f.name
    | some j => exact (ih b).cons_cons f.name

def Passes (f : Field α) (ms : List (Option String × Document)) : Prop :=
  ∀ m ∈ ms, ∀ k, m.1 = some k → f.answersTo k = false

theorem fill_passes (f : Field α) (rest : Fields τ σ) (src : Source) (slot : Option α)
    (ms : List (Option String × Document)) (h : Passes f ms) (slots : σ) :
    (Fields.cons f rest).fill src ms (slot, slots) =
      (rest.fill src ms slots).map fun filled => (slot, filled) := by
  induction ms generalizing slots with
  | nil => rfl
  | cons m ms ih =>
    obtain ⟨key, d⟩ := m
    have tail : Passes f ms := fun m hm => h m (List.mem_cons_of_mem _ hm)
    cases key with
    | none => rfl
    | some k =>
      have other : f.answersTo k = false := h _ List.mem_cons_self k rfl
      simp only [fill, put, other, Bool.false_eq_true, ↓reduceIte]
      cases rest.put src k d slots with
      | none =>
        simp only [Option.map_none]
        split
        · exact ih tail slots
        · rfl
      | some r =>
        cases r with
        | error e => rfl
        | ok filled => exact ih tail filled

theorem fill_append (fs : Fields τ σ) (src : Source) (ms more : List (Option String × Document))
    (slots : σ) :
    fs.fill src (ms ++ more) slots = (fs.fill src ms slots).bind (fs.fill src more) := by
  induction ms generalizing slots with
  | nil => rfl
  | cons m ms ih =>
    obtain ⟨key, d⟩ := m
    cases key with
    | none => rfl
    | some k =>
      simp only [List.cons_append, fill]
      cases fs.put src k d slots with
      | none =>
        simp only
        split
        · exact ih slots
        · rfl
      | some r =>
        cases r with
        | error e => rfl
        | ok filled => exact ih filled

theorem answersTo_name (f : Field α) : f.answersTo f.name = true := by simp [Field.answersTo]

theorem fill_own (f : Field α) (rest : Fields τ σ) (src : Source) (d : Document) (a : α)
    (read : f.decode src d = .ok a) (before after : List (Option String × Document))
    (hb : Passes f before) (ha : Passes f after) (slots filled : σ)
    (others : rest.fill src (before ++ after) slots = .ok filled) :
    (Fields.cons f rest).fill src (before ++ (some f.name, d) :: after) (none, slots) =
      .ok (some a, filled) := by
  rw [fill_append] at others
  rw [fill_append, fill_passes f rest src none before hb]
  cases first : rest.fill src before slots with
  | error e => simp [first, Except.bind] at others
  | ok middle =>
    simp only [first, Except.bind] at others
    simp only [Except.map, Except.bind, fill, put, answersTo_name, ↓reduceIte, read]
    rw [fill_passes f rest src (some a) after ha, others]
    rfl

theorem passes_of_keys {f : Field α} {names : List String}
    (h : ∀ k ∈ names, f.answersTo k = false) {ms : List (Option String × Document)}
    (keys : ∀ m ∈ ms, ∃ k ∈ names, m.1 = some k) : Passes f ms := by
  intro m hm k eq
  obtain ⟨k', known, eq'⟩ := keys m hm
  rw [eq'] at eq
  exact Option.some.inj eq ▸ h k' known

theorem keys_known {fs : Fields τ σ} {a : τ} {own ms : List (Option String × Document)}
    (shown : Json.MembersShownBy (fs.encode a) own) (sub : ∀ m ∈ ms, m ∈ own) :
    ∀ m ∈ ms, ∃ k ∈ fs.names, m.1 = some k := by
  intro m hm
  have key : m.1 ∈ own.map Prod.fst := List.mem_map_of_mem (sub m hm)
  rw [Json.members_keys shown] at key
  obtain ⟨p, hp, eq⟩ := List.mem_map.mp key
  exact ⟨p.1, (encode_names fs a).subset (List.mem_map_of_mem hp), eq.symm⟩

/-- Filling the slots from all members, in any order, and gathering them gives the fields back. -/
theorem fill_gather {fs : Fields τ σ} {a : τ} (h : fs.ReadsBack a) (src : Source)
    (ms own : List (Option String × Document)) (order : ms.Perm own)
    (shown : Json.MembersShownBy (fs.encode a) own) :
    ∃ slots, fs.fill src ms fs.blank = .ok slots ∧ fs.gather slots = .ok a := by
  induction fs generalizing ms own with
  | nil =>
    simp only [encode, Json.MembersShownBy] at shown
    subst own
    rw [order.eq_nil]
    exact ⟨(), rfl, rfl⟩
  | cons f rest ih =>
    obtain ⟨x, b⟩ := a
    obtain ⟨field, apart, others⟩ := h
    simp only [encode] at shown
    cases written : f.encode x with
    | none =>
      rw [written] at shown
      obtain ⟨slots, filled, gathered⟩ := ih others ms own order shown
      have pass : Passes f ms :=
        passes_of_keys apart (keys_known shown fun m hm => order.subset hm)
      refine ⟨(none, slots), ?_, ?_⟩
      · rw [blank, fill_passes f rest src none ms pass, filled]
        rfl
      · simp only [gather, ofSlot, field.missing written, gathered]
        rfl
    | some j =>
      rw [written] at shown
      obtain ⟨d, tail, rfl, first, remaining⟩ := shown
      obtain ⟨before, after, rfl⟩ := List.append_of_mem (order.mem_iff.mpr List.mem_cons_self)
      have order' : (before ++ after).Perm tail := (List.perm_middle.symm.trans order).cons_inv
      obtain ⟨slots, filled, gathered⟩ := ih others _ tail order' remaining
      have known := keys_known remaining fun m hm => order'.subset hm
      have hb : Passes f before :=
        passes_of_keys apart fun m hm => known m (List.mem_append_left _ hm)
      have ha : Passes f after :=
        passes_of_keys apart fun m hm => known m (List.mem_append_right _ hm)
      refine ⟨(some x, slots), ?_, ?_⟩
      · exact fill_own f rest src d x (field.shown src j d written first) before after hb ha _ _
          filled
      · simp only [gather, ofSlot, gathered]
        rfl

theorem ReadsBack.decode_shown {fs : Fields τ σ} {a : τ} (h : fs.ReadsBack a) (title : String)
    (src : Source) (d : Document) (shown : (Json.record (fs.encode a)).ShownBy d) :
    fs.decode title src d = .ok a := by
  obtain ⟨ms, own, rfl, order, members⟩ := shown
  obtain ⟨slots, filled, gathered⟩ := fill_gather h src ms own order members
  simp only [decode, filled, ↓reduceIte, gathered]
  cases src <;> rfl

end Fields

namespace Codec

theorem record_readsBack {title : String} {fs : Fields τ σ} {view : α → τ} {make : τ → α} {a : α}
    (h : fs.ReadsBack (view a)) (inverse : make (view a) = a) :
    (record title fs view make).ReadsBack a := by
  intro src d shown
  simp only [record, h.decode_shown title src d shown, Except.map, inverse]

theorem record_faithful {title : String} {fs : Fields τ σ} (h : fs.Faithful) {view : α → τ}
    {make : τ → α} (inverse : ∀ a, make (view a) = a) : (record title fs view make).Faithful :=
  fun src a d => record_readsBack (h.readsBack (view a)) (inverse a) src d

theorem record_neverNull (title : String) (fs : Fields τ σ) (view : α → τ) (make : τ → α) :
    (record title fs view make).NeverNull := fun _ => by simp [record]

theorem string_neverNull : string.NeverNull := fun _ => by simp [string]

theorem bool_neverNull : bool.NeverNull := fun _ => by simp [bool]

theorem word8_neverNull : word8.NeverNull := fun _ => nofun

theorem word32_neverNull : word32.NeverNull := fun _ => nofun

theorem word64_neverNull : word64.NeverNull := fun _ => nofun

theorem integer_neverNull : integer.NeverNull := by
  intro n
  simp only [integer]
  intro same
  cases value : n.toInt with
  | ofNat m =>
    rw [value] at same
    cases same
  | negSucc m =>
    rw [value] at same
    cases same

theorem timestamp_neverNull : timestamp.NeverNull := fun _ => by simp [timestamp]

theorem list_neverNull (c : Codec α) : c.list.NeverNull := fun _ => by simp [list]

end Codec

end IdentitySync
