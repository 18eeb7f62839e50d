import Mathlib.Data.List.Perm.Basic
import IdentitySync.Proofs.Collection.KeyedMap
import IdentitySync.Proofs.Json.Scan
import IdentitySync.Proofs.Json.Tagged

/-!
A written value is parsed to the same value with the keys of its objects in order. Sorting keeps
every member whose key is its own, so the parsed value shows the written one, and a faithful codec
reads it back from there as well as straight from the text.
-/
namespace IdentitySync

namespace Json

mutual

def Distinct : Json → Prop
  | .list items => ItemsDistinct items
  | .record fields => (fields.map Prod.fst).Nodup ∧ FieldsDistinct fields
  | _ => True

def ItemsDistinct : List Json → Prop
  | [] => True
  | j :: rest => j.Distinct ∧ ItemsDistinct rest

def FieldsDistinct : List (String × Json) → Prop
  | [] => True
  | (_, j) :: rest => j.Distinct ∧ FieldsDistinct rest

end

mutual

theorem Fits.distinct : ∀ (j : Json) (h : Nat), j.Fits h → j.Distinct
  | .null, _, _ => trivial
  | .bool _, _, _ => trivial
  | .number _, _, _ => trivial
  | .string _, _, _ => trivial
  | .list items, h + 1, fits => items_distinct items h fits
  | .record fields, h + 1, fits => ⟨fits.1, fields_distinct fields h fits.2⟩

theorem items_distinct : ∀ (items : List Json) (h : Nat), ItemsFit items h → ItemsDistinct items
  | [], _, _ => trivial
  | j :: rest, h, fits => ⟨Fits.distinct j h fits.1, items_distinct rest h fits.2⟩

theorem fields_distinct : ∀ (fields : List (String × Json)) (h : Nat), FieldsFit fields h →
    FieldsDistinct fields
  | [], _, _ => trivial
  | (_, j) :: rest, h, fits => ⟨Fits.distinct j h fits.1, fields_distinct rest h fits.2⟩

end

end Json

/-- The members have the keys of the entries, in their order, and are read as their values. -/
def MembersAre (read : Document → α → Prop) :
    List (Option String × Document) → List (String × α) → Prop :=
  List.Forall₂ fun m p => m.1 = some p.1 ∧ read m.2 p.2

theorem MembersAre.perm {read : Document → α → Prop} {ms own : List (Option String × Document)}
    {entries : List (String × α)} (order : ms.Perm own) (are : MembersAre read own entries) :
    ∃ entries', entries'.Perm entries ∧ MembersAre read ms entries' := by
  obtain ⟨entries', are', order'⟩ := List.perm_comp_forall₂ order are
  exact ⟨entries', order', are'⟩

theorem Document.members?_of_are {ms : List (Option String × Document)}
    {entries : List (String × Value)} (are : MembersAre (fun d v => d.value? = some v) ms entries)
    (m : KeyedMap Value) :
    Document.members? ms m = some (entries.foldl (fun m p => m.insert p.1 p.2) m) := by
  induction are generalizing m with
  | nil => rfl
  | @cons member p ms entries first rest ih =>
    obtain ⟨key, d⟩ := member
    obtain ⟨rfl, value⟩ := first
    simp only [members?, value, Option.bind_some, List.foldl_cons, ih]

namespace Json

def entryDocument (p : String × Value) : Option String × Document := (some p.1, p.2.json.document)

theorem entries_documents (entries : List (String × Value)) :
    documentFields (entries.map fun p => (p.1, p.2.json)) = entries.map entryDocument := by
  rw [documentFields_eq_map, List.map_map]
  rfl

mutual

theorem value_shows : ∀ (j : Json) (d : Document), j.Distinct → j.ShownBy d →
    ∃ v, d.value? = some v ∧ j.ShownBy v.json.document
  | .null, _, _, rfl => ⟨.null, rfl, rfl⟩
  | .bool b, _, _, rfl => ⟨.bool b, rfl, rfl⟩
  | .number n, _, _, rfl => ⟨.number n, rfl, rfl⟩
  | .string s, _, _, rfl => ⟨.string s, rfl, rfl⟩
  | .list items, _, distinct, ⟨ds, rfl, shown⟩ => by
    obtain ⟨vs, values, shown'⟩ := values_show items ds distinct shown
    refine ⟨.list vs, ?_, _, rfl, ?_⟩
    · simp only [Document.value?, ↓reduceIte, values]
      rfl
    · rw [documents_eq_map, List.map_map]
      exact shown'
  | .record fields, _, distinct, ⟨ms, own, rfl, order, shown⟩ => by
    obtain ⟨entries, keys, are, shown'⟩ := members_show fields own distinct.2 shown
    obtain ⟨entries', order', are'⟩ := MembersAre.perm order are
    have distinct' : (entries'.map Prod.fst).Nodup :=
      (order'.map Prod.fst).nodup_iff.mpr (keys ▸ distinct.1)
    have sorted : (KeyedMap.ofList entries').entries.Perm entries :=
      (KeyedMap.foldl_insert_perm entries' .empty distinct').trans order'
    refine ⟨.record (.ofList entries'), ?_, (KeyedMap.ofList entries').entries.map entryDocument,
      entries.map entryDocument, ?_, sorted.map entryDocument, shown'⟩
    · simp only [Document.value?, ↓reduceIte, Document.members?_of_are are']
      rfl
    · rw [← entries_documents]
      rfl

theorem values_show : ∀ (items : List Json) (ds : List Document), ItemsDistinct items →
    ItemsShownBy items ds → ∃ vs : List Value, Document.values? ds = some vs ∧
      ItemsShownBy items (vs.map fun v => v.json.document)
  | [], _, _, rfl => ⟨[], rfl, rfl⟩
  | j :: rest, _, distinct, ⟨d, tail, rfl, first, shown⟩ => by
    obtain ⟨v, value, first'⟩ := value_shows j d distinct.1 first
    obtain ⟨vs, values, others⟩ := values_show rest tail distinct.2 shown
    refine ⟨v :: vs, ?_, _, _, rfl, first', others⟩
    simp only [Document.values?, value, values]
    rfl

theorem members_show : ∀ (fields : List (String × Json)) (own : List (Option String × Document)),
    FieldsDistinct fields → MembersShownBy fields own →
    ∃ entries : List (String × Value), entries.map Prod.fst = fields.map Prod.fst ∧
      MembersAre (fun d v => d.value? = some v) own entries ∧
      MembersShownBy fields (entries.map entryDocument)
  | [], _, _, rfl => ⟨[], rfl, .nil, rfl⟩
  | (k, j) :: rest, _, distinct, ⟨d, tail, rfl, first, shown⟩ => by
    obtain ⟨v, value, first'⟩ := value_shows j d distinct.1 first
    obtain ⟨entries, keys, are, others⟩ := members_show rest tail distinct.2 shown
    exact ⟨(k, v) :: entries, congrArg (List.cons k) keys, .cons ⟨rfl, value⟩ are, _, _, rfl,
      first', others⟩

end

theorem parse?_text {j : Json} {h : Nat} (fits : j.Fits h) (room : h ≤ Machine.depthLimit) :
    ∃ v, parse? j.text = some v ∧ j.ShownBy v.json.document := by
  obtain ⟨v, value, shown⟩ :=
    value_shows j j.document (Fits.distinct j h fits) (shownBy_document j)
  refine ⟨v, ?_, shown⟩
  rw [parse?, scan_text fits room]
  exact value

theorem single_member {key : String} {j : Json} {v : Json}
    (shown : (Json.record [(key, j)]).ShownBy v.document) :
    ∃ inner, v = .record [(key, inner)] ∧ j.ShownBy inner.document := by
  obtain ⟨ms, own, eq, order, d, tail, rfl, first, rfl⟩ := shown
  have same := List.perm_singleton.mp order
  subst ms
  cases v with
  | record fields =>
    simp only [document, Document.record.injEq, and_true, documentFields_eq_map] at eq
    obtain ⟨p, rfl, eq'⟩ := List.map_eq_singleton_iff.mp eq
    simp only [Prod.mk.injEq, Option.some.injEq] at eq'
    obtain ⟨rfl, rfl⟩ := eq'
    exact ⟨p.2, rfl, first⟩
  | null => simp [document] at eq
  | bool b => simp [document] at eq
  | number n => simp [document] at eq
  | string s => simp [document] at eq
  | list items => simp [document] at eq

end Json

namespace Codec

def Fits (c : Codec α) (h : Nat) : Prop := ∀ a, (c.encode a).Fits h

theorem ReadsBack.read_text {c : Codec α} {h : Nat} {a : α} (back : c.ReadsBack a)
    (fits : (c.encode a).Fits h) (room : h ≤ Json.Machine.depthLimit) :
    c.read (c.encode a).text = .ok a := by
  simp only [read, Json.scan_text fits room, back .text _ (Json.shownBy_document _), ↓reduceIte]

theorem read_text {c : Codec α} {h : Nat} (faithful : c.Faithful) (fits : c.Fits h)
    (room : h ≤ Json.Machine.depthLimit) (a : α) : c.read (c.encode a).text = .ok a :=
  (faithful.readsBack a).read_text (fits a) room

theorem string_fits (h : Nat) : string.Fits h := fun _ => trivial

theorem bool_fits (h : Nat) : bool.Fits h := fun _ => trivial

theorem timestamp_fits (h : Nat) : timestamp.Fits h := fun _ => trivial

theorem word8_fits (h : Nat) : word8.Fits h := fun a =>
  Nat.lt_trans a.toNat_lt (by decide)

theorem word32_fits (h : Nat) : word32.Fits h := fun a =>
  Nat.lt_trans a.toNat_lt (by decide)

theorem word64_fits (h : Nat) : word64.Fits h := fun a => a.toNat_lt

theorem integer_fits (h : Nat) : integer.Fits h := by
  intro n
  simp only [integer]
  rcases toInt_cases n with ⟨m, value, small⟩ | ⟨m, value, small⟩
  · rw [value]
    exact Nat.lt_trans small (by decide)
  · rw [value]
    exact ⟨Nat.succ_pos m, small⟩

theorem list_fits {c : Codec α} {h : Nat} (fits : c.Fits h) : c.list.Fits (h + 1) := by
  intro xs
  change Json.ItemsFit (xs.map c.encode) h
  induction xs with
  | nil => trivial
  | cons x xs ih => exact ⟨fits x, ih⟩

theorem option_fits {c : Codec α} {h : Nat} (fits : c.Fits h) : c.option.Fits h := by
  intro a
  cases a with
  | none => trivial
  | some a => exact fits a

theorem orDefault_fits {c : Codec α} {h : Nat} (fits : c.Fits h) (a : α) :
    (c.orDefault a).Fits h := fits

end Codec

namespace Field

def Fits (f : Field α) (h : Nat) : Prop := ∀ a j, f.encode a = some j → j.Fits h

theorem required_fits (name : String) {c : Codec α} {h : Nat} (fits : c.Fits h) :
    (required name c).Fits h := by
  intro a j eq
  exact Option.some.inj eq ▸ fits a

theorem defaulted_fits (name : String) {c : Codec α} {h : Nat} (fits : c.Fits h) (a : α) :
    (defaulted name c a).Fits h := by
  intro a j eq
  exact Option.some.inj eq ▸ fits a

theorem nullable_fits (name : String) {c : Codec α} {h : Nat} (fits : c.Fits h) :
    (nullable name c).Fits h := defaulted_fits name (Codec.option_fits fits) none

theorem optional_fits (name : String) {c : Codec α} {h : Nat} (fits : c.Fits h) :
    (optional name c).Fits h := by
  intro a j eq
  obtain ⟨x, rfl, rfl⟩ := Option.map_eq_some_iff.mp eq
  exact fits x

end Field

namespace Fields

def Fit : Fields τ σ → Nat → Prop
  | .nil, _ => True
  | .cons f rest, h => f.Fits h ∧ rest.Fit h

theorem encode_fits (fs : Fields τ σ) (h : Nat) (fits : fs.Fit h) (a : τ) :
    Json.FieldsFit (fs.encode a) h := by
  induction fs with
  | nil => trivial
  | cons f rest ih =>
    obtain ⟨x, b⟩ := a
    simp only [encode]
    cases written : f.encode x with
    | none => exact ih fits.2 b
    | some j => exact ⟨fits.1 x j written, ih fits.2 b⟩

end Fields

namespace Codec

theorem record_fits {title : String} {fs : Fields τ σ} {view : α → τ} {make : τ → α} {h : Nat}
    (distinct : fs.names.Nodup) (fits : fs.Fit h) : (record title fs view make).Fits (h + 1) :=
  fun a => ⟨distinct.sublist (Fields.encode_names fs (view a)), Fields.encode_fits fs h fits _⟩

end Codec

end IdentitySync
