import IdentitySync.Proofs.Json.Members

/-!
Variants with a tag among their members. The tag is found wherever it stands, and what is left
beside it still shows the variant's own fields.
-/
namespace IdentitySync

namespace Document

theorem readableFields_eq_all (ms : List (Option String × Document)) :
    readableFields ms = ms.all fun m => m.1.isSome && m.2.readable := by
  induction ms with
  | nil => rfl
  | cons m rest ih => simp only [readableFields, List.all_cons, ih]

end Document

namespace Json

mutual

theorem readable_of_shownBy : ∀ (j : Json) (d : Document), j.ShownBy d → d.readable = true
  | .null, _, rfl => rfl
  | .bool _, _, rfl => rfl
  | .number _, _, rfl => rfl
  | .string _, _, rfl => rfl
  | .list items, _, ⟨ds, rfl, shown⟩ => by
    simp only [Document.readable, Bool.true_and]
    exact readable_of_items items ds shown
  | .record fields, _, ⟨ms, own, rfl, order, shown⟩ => by
    have all := readable_of_members fields own shown
    simp only [Document.readable, Bool.true_and, Document.readableFields_eq_all] at all ⊢
    rw [List.all_eq_true] at all ⊢
    exact fun m hm => all m (order.subset hm)

theorem readable_of_items : ∀ (items : List Json) (ds : List Document), ItemsShownBy items ds →
    Document.readableItems ds = true
  | [], _, rfl => rfl
  | j :: rest, _, ⟨d, tail, rfl, first, shown⟩ => by
    simp only [Document.readableItems, readable_of_shownBy j d first,
      readable_of_items rest tail shown, Bool.and_self]

theorem readable_of_members : ∀ (fields : List (String × Json))
    (ms : List (Option String × Document)), MembersShownBy fields ms →
    Document.readableFields ms = true
  | [], _, rfl => rfl
  | (_, j) :: rest, _, ⟨d, tail, rfl, first, shown⟩ => by
    simp only [Document.readableFields, Option.isSome_some, readable_of_shownBy j d first,
      readable_of_members rest tail shown, Bool.and_self]

end

end Json

/-- Members beside a tag: each has a key that is not the tag, and a value. -/
def Beside (tag : String) (ms : List (Option String × Document)) : Prop :=
  ∀ m ∈ ms, (∃ k, m.1 = some k ∧ k ≠ tag) ∧ m.2.readable = true

theorem takeTag_beside (tag : String) (known : List (String × α))
    (ms : List (Option String × Document)) (h : Beside tag ms) (seen : Option α) :
    takeTag tag known ms seen = .ok (seen, ms) := by
  induction ms with
  | nil => rfl
  | cons m ms ih =>
    obtain ⟨key, d⟩ := m
    obtain ⟨⟨k, rfl, other⟩, readable⟩ := h _ List.mem_cons_self
    simp only at readable
    simp only [takeTag, other, readable, ↓reduceIte,
      ih fun m hm => h m (List.mem_cons_of_mem _ hm)]
    rfl

theorem takeTag_own (tag name : String) (known : List (String × α)) (a : α)
    (pick : known.lookup name = some a) (before after : List (Option String × Document))
    (hb : Beside tag before) (ha : Beside tag after) :
    takeTag tag known (before ++ (some tag, .string name) :: after) none =
      .ok (some a, before ++ after) := by
  induction before with
  | nil =>
    simp only [List.nil_append, takeTag, ↓reduceIte, Option.isSome_none, Bool.false_eq_true,
      decodeTag, pickNamed, pick]
    exact takeTag_beside tag known after ha (some a)
  | cons m before ih =>
    obtain ⟨key, d⟩ := m
    obtain ⟨⟨k, rfl, other⟩, readable⟩ := hb _ List.mem_cons_self
    simp only at readable
    simp only [List.cons_append, takeTag, other, readable, ↓reduceIte,
      ih fun m hm => hb m (List.mem_cons_of_mem _ hm)]
    rfl

namespace Codec

/-- A tagged type is read back when each variant is: its name is known, its reader undoes its
    fields, and none of its fields has the name of the tag. -/
theorem tagged_faithful {title tag : String} {variants : List (String × Content α)}
    {encode : α → String × List (String × Json)}
    (h : ∀ a, ∃ content, variants.lookup (encode a).1 = some content ∧
      tag ∉ (encode a).2.map Prod.fst ∧
      ∀ d, (Json.record (encode a).2).ShownBy d → content d = .ok a) :
    (tagged title tag variants encode).Faithful := by
  intro src a d shown
  obtain ⟨content, pick, apart, reads⟩ := h a
  have readable := Json.readable_of_shownBy _ d shown
  obtain ⟨ms, own, rfl, order, members⟩ := shown
  obtain ⟨tagDoc, tail, rfl, first, rest⟩ := members
  simp only [Json.ShownBy] at first
  subst tagDoc
  obtain ⟨before, after, rfl⟩ := List.append_of_mem (order.mem_iff.mpr List.mem_cons_self)
  have order' : (before ++ after).Perm tail := (List.perm_middle.symm.trans order).cons_inv
  have beside : Beside tag (before ++ after) := by
    intro m hm
    have key : m.1 ∈ tail.map Prod.fst := List.mem_map_of_mem (order'.subset hm)
    rw [Json.members_keys rest] at key
    obtain ⟨p, hp, eq⟩ := List.mem_map.mp key
    refine ⟨⟨p.1, eq.symm, fun same => apart (same ▸ List.mem_map_of_mem hp)⟩, ?_⟩
    simp only [Document.readable, Bool.true_and, Document.readableFields_eq_all,
      List.all_eq_true] at readable
    have present : m ∈ before ++ (some tag, Document.string (encode a).1) :: after := by
      simp only [List.mem_append, List.mem_cons] at hm ⊢
      rcases hm with hm | hm
      · exact .inl hm
      · exact .inr (.inr hm)
    exact (Bool.and_eq_true_iff.mp (readable m present)).2
  have taken := takeTag_own tag (encode a).1 variants content pick before after
    (fun m hm => beside m (List.mem_append_left _ hm))
    (fun m hm => beside m (List.mem_append_right _ hm))
  have placed : ∀ r, src.place (.ok r : Decoded (Content α × Document)) = .ok r := by
    cases src <;> exact fun _ => rfl
  simp only [tagged, splitTag, taken, Bool.not_true, Bool.false_eq_true, ↓reduceIte, placed]
  exact reads _ ⟨_, tail, rfl, order', rest⟩

end Codec

theorem Content.fields_shown {fs : Fields τ σ} (h : fs.Faithful) (title : String) (make : τ → α)
    (a : τ) (d : Document) (shown : (Json.record (fs.encode a)).ShownBy d) :
    Content.fields title fs make d = .ok (make a) := by
  simp only [Content.fields, (h.readsBack a).decode_shown title .aside d shown]
  rfl

theorem Content.nothing_shown (a : α) (fields : List (String × Json)) (d : Document)
    (shown : (Json.record fields).ShownBy d) : Content.nothing a d = .ok a := by
  obtain ⟨ms, own, rfl, _⟩ := shown
  rfl

end IdentitySync
