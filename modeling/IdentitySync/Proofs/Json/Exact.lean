import Mathlib.Data.List.Permutation
import IdentitySync.Proofs.Json.Sorted

/-!
Codecs that lose nothing. One is exact when it reads back what it writes, whatever the order of the
members, and names no key of an object twice. What is then encoded to a value, in which the keys of
objects are in order, is decoded from it to the same thing. Exact parts make exact lists, maps,
records and variants.
-/
namespace IdentitySync

namespace Codec

structure Exact (c : Codec α) : Prop where
  faithful : c.Faithful
  distinct : ∀ a, (c.encode a).Distinct

def toValue? (c : Codec α) (a : α) : Option Value := (c.encode a).document.value?

/-- What is encoded to a value is decoded from it, so things with the same value are the same. -/
structure RoundTrips (c : Codec α) : Prop where
  back : ∀ a, ∃ v, c.toValue? a = some v ∧ c.ofValue v = .ok a
  apart : ∀ a b, c.toValue? a = c.toValue? b → a = b

theorem ReadsBack.of_value {c : Codec α} {a : α} (back : c.ReadsBack a)
    (distinct : (c.encode a).Distinct) : ∃ v, c.toValue? a = some v ∧ c.ofValue v = .ok a := by
  obtain ⟨v, value, shown⟩ :=
    Json.value_shows (c.encode a) _ distinct (Json.shownBy_document _)
  exact ⟨v, value, back .value _ shown⟩

theorem Exact.roundTrips {c : Codec α} (h : c.Exact) : c.RoundTrips := by
  have back : ∀ a, ∃ v, c.toValue? a = some v ∧ c.ofValue v = .ok a :=
    fun a => (h.faithful.readsBack a).of_value (h.distinct a)
  refine ⟨back, fun a b same => ?_⟩
  obtain ⟨v, value, read⟩ := back a
  obtain ⟨w, value', read'⟩ := back b
  rw [value, value'] at same
  cases same
  rw [read] at read'
  cases read'
  rfl

theorem string_exact : string.Exact := ⟨string_faithful, fun _ => trivial⟩

theorem bool_exact : bool.Exact := ⟨bool_faithful, fun _ => trivial⟩

theorem word32_exact : word32.Exact := ⟨word32_faithful, fun _ => trivial⟩

theorem word64_exact : word64.Exact := ⟨word64_faithful, fun _ => trivial⟩

theorem timestamp_exact : timestamp.Exact := ⟨timestamp_faithful, fun _ => trivial⟩

theorem list_exact {c : Codec α} (h : c.Exact) : c.list.Exact := by
  refine ⟨list_faithful h.faithful, fun xs => ?_⟩
  change Json.ItemsDistinct (xs.map c.encode)
  induction xs with
  | nil => trivial
  | cons x xs ih => exact ⟨h.distinct x, ih⟩

end Codec

namespace Json

theorem fieldsDistinct_of_forall {fields : List (String × Json)}
    (h : ∀ p ∈ fields, p.2.Distinct) : FieldsDistinct fields := by
  induction fields with
  | nil => trivial
  | cons p rest ih =>
    exact ⟨h p List.mem_cons_self, ih fun q hq => h q (List.mem_cons_of_mem _ hq)⟩

theorem membersAre_of_shown {c : Codec α} (h : c.Faithful) (src : Source)
    {entries : List (String × α)} {ms : List (Option String × Document)}
    (shown : MembersShownBy (entries.map fun p => (p.1, c.encode p.2)) ms) :
    MembersAre (fun d a => c.decode src d = .ok a) ms entries := by
  induction entries generalizing ms with
  | nil =>
    cases shown
    exact .nil
  | cons p rest ih =>
    obtain ⟨d, tail, rfl, first, others⟩ := shown
    exact .cons ⟨rfl, h src p.2 d first⟩ (ih others)

end Json

theorem Document.decodeMembers_of_are {decode : Document → Decoded α}
    {ms : List (Option String × Document)} {entries : List (String × α)}
    (are : MembersAre (fun d a => decode d = .ok a) ms entries) (m : KeyedMap α) :
    decodeMembers decode ms m = .ok (entries.foldl (fun m p => m.insert p.1 p.2) m) := by
  induction are generalizing m with
  | nil => rfl
  | @cons member p ms entries first rest ih =>
    obtain ⟨key, d⟩ := member
    obtain ⟨rfl, read⟩ := first
    simp only [decodeMembers, read, List.foldl_cons, ih]

namespace Codec

theorem map_exact {c : Codec α} (h : c.Exact) : c.map.Exact := by
  refine ⟨fun src m d shown => ?_, fun m => ⟨?_, Json.fieldsDistinct_of_forall fun p hp => ?_⟩⟩
  · obtain ⟨ms, own, rfl, order, members⟩ := shown
    obtain ⟨entries, order', are⟩ :=
      MembersAre.perm order (Json.membersAre_of_shown h.faithful src members)
    have read : Document.decodeMembers (c.decode src) ms .empty = .ok m := by
      rw [Document.decodeMembers_of_are are]
      exact congrArg Except.ok (m.ofList_perm order')
    simp only [map, Document.decodeMap, read, ↓reduceIte]
    cases src <;> rfl
  · rw [List.map_map]
    exact m.keys_nodup
  · obtain ⟨q, _, rfl⟩ := List.mem_map.mp hp
    exact h.distinct q.2

end Codec

theorem KeysIncrease.nodup {α : Type} {entries : List (String × α)}
    (increase : KeysIncrease entries) : (entries.map Prod.fst).Nodup :=
  KeyedMap.keys_nodup ⟨entries, increase⟩

theorem KeysIncrease.of_map {f : α → β} {entries : List (String × α)}
    (increase : KeysIncrease (entries.map fun p => (p.1, f p.2))) : KeysIncrease entries :=
  (List.pairwise_map (f := fun p : String × α => (p.1, f p.2))
    (R := fun a b : String × β => a.1 < b.1)).mp increase

namespace Json

mutual

theorem Canonical.distinct : ∀ j : Json, j.Canonical → j.Distinct
  | .null, _ => trivial
  | .bool _, _ => trivial
  | .number _, _ => trivial
  | .string _, _ => trivial
  | .list items, canonical => canonical_items_distinct items canonical
  | .record fields, canonical => ⟨canonical.1.nodup, canonical_fields_distinct fields canonical.2⟩

theorem canonical_items_distinct : ∀ items : List Json, CanonicalItems items → ItemsDistinct items
  | [], _ => trivial
  | j :: rest, canonical =>
    ⟨Canonical.distinct j canonical.1, canonical_items_distinct rest canonical.2⟩

theorem canonical_fields_distinct : ∀ fields : List (String × Json), CanonicalFields fields →
    FieldsDistinct fields
  | [], _ => trivial
  | (_, j) :: rest, canonical =>
    ⟨Canonical.distinct j canonical.1, canonical_fields_distinct rest canonical.2⟩

end

mutual

theorem value_of_shown : ∀ (j : Json) (d : Document), j.Canonical → j.ShownBy d →
    ∃ v, d.value? = some v ∧ v.json = j
  | .null, _, _, rfl => ⟨.null, rfl, rfl⟩
  | .bool b, _, _, rfl => ⟨.bool b, rfl, rfl⟩
  | .number n, _, _, rfl => ⟨.number n, rfl, rfl⟩
  | .string s, _, _, rfl => ⟨.string s, rfl, rfl⟩
  | .list items, _, canonical, ⟨ds, rfl, shown⟩ => by
    obtain ⟨vs, values, same⟩ := values_of_shown items ds canonical shown
    refine ⟨.list vs, ?_, congrArg Json.list same⟩
    simp only [Document.value?, ↓reduceIte, values]
    rfl
  | .record fields, _, canonical, ⟨ms, own, rfl, order, shown⟩ => by
    obtain ⟨entries, same, are⟩ := members_of_shown fields own canonical.2 shown
    obtain ⟨entries', order', are'⟩ := MembersAre.perm order are
    have increase : KeysIncrease entries := .of_map (f := Value.json) (same ▸ canonical.1)
    have whole : KeyedMap.ofList entries' = ⟨entries, increase⟩ := KeyedMap.ofList_perm _ order'
    refine ⟨.record (.ofList entries'), ?_, ?_⟩
    · simp only [Document.value?, ↓reduceIte, Document.members?_of_are are']
      rfl
    · rw [whole]
      exact congrArg Json.record same

theorem values_of_shown : ∀ (items : List Json) (ds : List Document), CanonicalItems items →
    ItemsShownBy items ds →
    ∃ vs : List Value, Document.values? ds = some vs ∧ vs.map Value.json = items
  | [], _, _, rfl => ⟨[], rfl, rfl⟩
  | j :: rest, _, canonical, ⟨d, tail, rfl, first, shown⟩ => by
    obtain ⟨v, value, rfl⟩ := value_of_shown j d canonical.1 first
    obtain ⟨vs, values, rfl⟩ := values_of_shown rest tail canonical.2 shown
    refine ⟨v :: vs, ?_, rfl⟩
    simp only [Document.values?, value, values]
    rfl

theorem members_of_shown : ∀ (fields : List (String × Json))
    (ms : List (Option String × Document)), CanonicalFields fields → MembersShownBy fields ms →
    ∃ entries : List (String × Value), entries.map (fun p => (p.1, p.2.json)) = fields ∧
      MembersAre (fun d v => d.value? = some v) ms entries
  | [], _, _, rfl => ⟨[], rfl, .nil⟩
  | (k, j) :: rest, _, canonical, ⟨d, tail, rfl, first, shown⟩ => by
    obtain ⟨v, value, rfl⟩ := value_of_shown j d canonical.1 first
    obtain ⟨entries, rfl, are⟩ := members_of_shown rest tail canonical.2 shown
    exact ⟨(k, v) :: entries, rfl, .cons ⟨rfl, value⟩ are⟩

end

end Json

theorem Document.value?_of_shown {v : Value} {d : Document} (shown : v.json.ShownBy d) :
    d.value? = some v := by
  obtain ⟨w, read, same⟩ := Json.value_of_shown v.json d v.canonical shown
  cases v
  cases w
  cases same
  exact read

namespace Codec

theorem value_exact : value.Exact := by
  refine ⟨fun src v d shown => ?_, fun v => Json.Canonical.distinct v.json v.canonical⟩
  simp only [value, Document.decodeValue, Document.value?_of_shown shown]

theorem named_exact {name : α → String} {all : List α}
    (known : ∀ a, pickNamed (all.map fun a => (name a, a)) (name a) = .ok a) :
    (named name all).Exact := by
  refine ⟨fun src a d shown => ?_, fun a => trivial⟩
  cases shown
  exact known a

end Codec

namespace Field

structure Exact (f : Field α) : Prop where
  faithful : f.Faithful
  distinct : ∀ a j, f.encode a = some j → j.Distinct

theorem required_exact (name : String) {c : Codec α} (h : c.Exact) : (required name c).Exact := by
  refine ⟨required_faithful name h.faithful, fun a j written => ?_⟩
  cases written
  exact h.distinct a

theorem defaulted_exact (name : String) {c : Codec α} (h : c.Exact) (a : α) :
    (defaulted name c a).Exact := by
  refine ⟨defaulted_faithful name h.faithful a, fun a j written => ?_⟩
  cases written
  exact h.distinct a

theorem optional_exact (name : String) {c : Codec α} (h : c.Exact) (never : c.NeverNull) :
    (optional name c).Exact := by
  refine ⟨optional_faithful name h.faithful never, fun a j written => ?_⟩
  obtain ⟨x, rfl, rfl⟩ := Option.map_eq_some_iff.mp written
  exact h.distinct x

end Field

namespace Fields

/-- Every field is exact and answers to none of the names after its own. -/
def Exact : Fields τ σ → Prop
  | .nil => True
  | .cons f rest => f.Exact ∧ (∀ k ∈ rest.names, f.answersTo k = false) ∧ rest.Exact

theorem Exact.faithful {fs : Fields τ σ} (h : fs.Exact) : fs.Faithful := by
  induction fs with
  | nil => trivial
  | cons f rest ih => exact ⟨h.1.faithful, h.2.1, ih h.2.2⟩

theorem Exact.names_nodup {fs : Fields τ σ} (h : fs.Exact) : fs.names.Nodup := by
  induction fs with
  | nil => exact List.nodup_nil
  | cons f rest ih =>
    refine List.nodup_cons.mpr ⟨fun again => ?_, ih h.2.2⟩
    have own := answersTo_name f
    rw [h.2.1 f.name again] at own
    cases own

theorem Exact.distinct {fs : Fields τ σ} (h : fs.Exact) (a : τ) :
    Json.FieldsDistinct (fs.encode a) := by
  induction fs with
  | nil => trivial
  | cons f rest ih =>
    obtain ⟨x, b⟩ := a
    simp only [encode]
    cases written : f.encode x with
    | none => exact ih h.2.2 b
    | some j => exact ⟨h.1.distinct x j written, ih h.2.2 b⟩

end Fields

namespace Codec

theorem record_exact {title : String} {fs : Fields τ σ} (h : fs.Exact) {view : α → τ}
    {make : τ → α} (inverse : ∀ a, make (view a) = a) : (record title fs view make).Exact :=
  ⟨record_faithful h.faithful inverse,
    fun a => ⟨h.names_nodup.sublist (Fields.encode_names fs (view a)), h.distinct (view a)⟩⟩

end Codec

/-- One variant of a tagged type: none of its fields has the name of the tag, no two have the same
    name, and what shows them is read as what they were written for. -/
structure Content.Exact (tag : String) (content : Content α) (fields : List (String × Json))
    (a : α) : Prop where
  apart : tag ∉ fields.map Prod.fst
  names : (fields.map Prod.fst).Nodup
  distinct : Json.FieldsDistinct fields
  reads : ∀ d, (Json.record fields).ShownBy d → content d = .ok a

theorem Content.nothing_exact (tag : String) (a : α) : Content.Exact tag (.nothing a) [] a :=
  ⟨List.not_mem_nil, List.nodup_nil, trivial, Content.nothing_shown a []⟩

theorem Content.fields_exact {tag : String} {fs : Fields τ σ} (h : fs.Exact)
    (apart : tag ∉ fs.names) (title : String) (make : τ → α) (a : τ) :
    Content.Exact tag (.fields title fs make) (fs.encode a) (make a) :=
  ⟨fun among => apart ((Fields.encode_names fs a).subset among),
    h.names_nodup.sublist (Fields.encode_names fs a), h.distinct a,
    Content.fields_shown h.faithful title make a⟩

theorem Content.record_exact {tag title : String} {fs : Fields τ σ} (h : fs.Exact)
    (apart : tag ∉ fs.names) {view : α → τ} {make : τ → α} (inverse : ∀ a, make (view a) = a)
    (wrap : α → β) (a : α) :
    Content.Exact tag (fun d => ((Codec.record title fs view make).decode .aside d).map wrap)
      (fs.encode (view a)) (wrap a) := by
  have fields := Content.fields_exact h apart title make (view a)
  refine ⟨fields.apart, fields.names, fields.distinct, fun d shown => ?_⟩
  rw [Codec.record_faithful h.faithful inverse .aside a d shown]
  rfl

namespace Codec

theorem tagged_exact {title tag : String} {variants : List (String × Content α)}
    {encode : α → String × List (String × Json)}
    (h : ∀ a, ∃ content, variants.lookup (encode a).1 = some content ∧
      Content.Exact tag content (encode a).2 a) : (tagged title tag variants encode).Exact := by
  refine ⟨tagged_faithful fun a => ?_, fun a => ?_⟩
  · obtain ⟨content, known, exact⟩ := h a
    exact ⟨content, known, exact.apart, exact.reads⟩
  · obtain ⟨content, _, exact⟩ := h a
    exact ⟨List.nodup_cons.mpr ⟨exact.apart, exact.names⟩, trivial, exact.distinct⟩

theorem tagged_neverNull (title tag : String) (variants : List (String × Content α))
    (encode : α → String × List (String × Json)) :
    (tagged title tag variants encode).NeverNull := fun _ => by simp [tagged]

theorem adjacent_exact {title tag content : String} {variants : List (String × Reader α)}
    {encode : α → String × Json} (other : content ≠ tag)
    (h : ∀ a, ∃ reader, variants.lookup (encode a).1 = some reader ∧ (encode a).2.Distinct ∧
      ∀ src d, (encode a).2.ShownBy d → reader src d = .ok a) :
    (adjacent title tag content variants encode).Exact := by
  refine ⟨fun src a d shown => ?_, fun a => ?_⟩
  · obtain ⟨reader, known, _, reads⟩ := h a
    obtain ⟨ms, own, rfl, order, name, tail, rfl, named, d, rest, rfl, first, rfl⟩ := shown
    cases named
    have named : ∀ src, decodeName variants src (.string (encode a).1) = .ok reader := by
      intro src
      simp only [decodeName, pickNamed, known]
    have readable := Json.readable_of_shownBy _ d first
    have members : decodeAdjacentMembers tag content variants src ms true = .ok a := by
      rcases List.perm_pair.mp order with rfl | rfl
      · simp only [decodeAdjacentMembers, nextRelevant, other, ↓reduceIte, named, reads _ d first,
          noneRelevant]
      · simp only [decodeAdjacentMembers, nextRelevant, other, ↓reduceIte, readable, Bool.not_true,
          Bool.false_eq_true, named, reads _ d first, noneRelevant]
    simp only [adjacent, decodeAdjacent, members]
    cases src <;> rfl
  · obtain ⟨_, _, distinct, _⟩ := h a
    refine ⟨?_, trivial, distinct, trivial⟩
    rw [List.map_cons, List.map_cons, List.map_nil, List.nodup_cons, List.mem_singleton]
    exact ⟨Ne.symm other, List.nodup_cons.mpr ⟨List.not_mem_nil, List.nodup_nil⟩⟩

end Codec

end IdentitySync
