import IdentitySync.Json.Variant
import IdentitySync.Proofs.Time.Rfc3339

/-!
Documents that show a JSON value: the value's own parts, with the members of every object in
whatever order. A codec is faithful when it decodes every such document to what was encoded, so the
same law covers a text in document order and a value whose keys were sorted. Faithful parts make
faithful lists, options and records.
-/
namespace IdentitySync

namespace Json

mutual

/-- The document has the parts of the value; members of objects may stand in another order. -/
def ShownBy : Json → Document → Prop
  | .null, d => d = .null
  | .bool b, d => d = .bool b
  | .number n, d => d = .number n
  | .string s, d => d = .string s
  | .list items, d => ∃ ds, d = .list ds true ∧ ItemsShownBy items ds
  | .record fields, d => ∃ ms own, d = .record ms true ∧ ms.Perm own ∧ MembersShownBy fields own

def ItemsShownBy : List Json → List Document → Prop
  | [], ds => ds = []
  | j :: rest, ds => ∃ d tail, ds = d :: tail ∧ j.ShownBy d ∧ ItemsShownBy rest tail

def MembersShownBy : List (String × Json) → List (Option String × Document) → Prop
  | [], ms => ms = []
  | (k, j) :: rest, ms =>
    ∃ d tail, ms = (some k, d) :: tail ∧ j.ShownBy d ∧ MembersShownBy rest tail

end

mutual

theorem shownBy_document : ∀ j : Json, j.ShownBy j.document
  | .null => rfl
  | .bool _ => rfl
  | .number _ => rfl
  | .string _ => rfl
  | .list items => ⟨_, rfl, items_shownBy_documents items⟩
  | .record fields => ⟨_, _, rfl, .refl _, members_shownBy_documents fields⟩

theorem items_shownBy_documents : ∀ items : List Json, ItemsShownBy items (documents items)
  | [] => rfl
  | j :: rest => ⟨_, _, rfl, shownBy_document j, items_shownBy_documents rest⟩

theorem members_shownBy_documents :
    ∀ fields : List (String × Json), MembersShownBy fields (documentFields fields)
  | [] => rfl
  | (_, j) :: rest => ⟨_, _, rfl, shownBy_document j, members_shownBy_documents rest⟩

end

theorem members_keys {fields : List (String × Json)} {ms : List (Option String × Document)}
    (h : MembersShownBy fields ms) : ms.map Prod.fst = fields.map fun p => some p.1 := by
  induction fields generalizing ms with
  | nil => simp_all [MembersShownBy]
  | cons p rest ih =>
    obtain ⟨k, j⟩ := p
    obtain ⟨d, tail, rfl, _, shown⟩ := h
    simp [ih shown]

end Json

namespace Codec

def Faithful (c : Codec α) : Prop :=
  ∀ src a d, (c.encode a).ShownBy d → c.decode src d = .ok a

def ReadsBack (c : Codec α) (a : α) : Prop :=
  ∀ src d, (c.encode a).ShownBy d → c.decode src d = .ok a

theorem Faithful.readsBack {c : Codec α} (h : c.Faithful) (a : α) : c.ReadsBack a :=
  fun src d => h src a d

theorem string_faithful : string.Faithful := by
  rintro src a d rfl
  rfl

theorem decodeNatural_below {n bound : Nat} (h : n < bound) (name : String) :
    Document.decodeNatural bound name (.number (.natural n)) = .ok n := if_pos h

theorem word8_faithful : word8.Faithful := by
  rintro src a d rfl
  simp only [word8, decodeNatural_below a.toNat_lt, Except.map, UInt8.ofNat_toNat]

theorem word32_faithful : word32.Faithful := by
  rintro src a d rfl
  simp only [word32, decodeNatural_below a.toNat_lt, Except.map, UInt32.ofNat_toNat]

theorem word64_faithful : word64.Faithful := by
  rintro src a d rfl
  simp only [word64, decodeNatural_below a.toNat_lt, Except.map, UInt64.ofNat_toNat]

theorem toInt_cases (n : Int64) :
    (∃ m, n.toInt = Int.ofNat m ∧ m < Nat.pow 2 63) ∨
    ∃ m, n.toInt = Int.negSucc m ∧ m + 1 ≤ Nat.pow 2 63 := by
  have least : -(2 ^ 63 : Int) ≤ n.toInt := n.le_toInt
  have greatest : n.toInt < 2 ^ 63 := n.toInt_lt
  cases value : n.toInt with
  | ofNat m =>
    refine .inl ⟨m, rfl, ?_⟩
    rw [value] at greatest
    exact Int.ofNat_lt.mp greatest
  | negSucc m =>
    refine .inr ⟨m, rfl, ?_⟩
    change m + 1 ≤ 2 ^ 63
    omega

theorem integer_faithful : integer.Faithful := by
  intro src n d shown
  simp only [integer] at shown ⊢
  rw [← Int64.ofInt_toInt n]
  rcases toInt_cases n with ⟨m, value, small⟩ | ⟨m, value, small⟩
  · rw [value] at shown ⊢
    cases shown
    simp only [Document.decodeInteger, if_pos small]
    rfl
  · rw [value] at shown ⊢
    cases shown
    simp only [Document.decodeInteger, if_pos small]
    rfl

theorem bool_faithful : bool.Faithful := by
  rintro src a d rfl
  rfl

theorem timestamp_faithful : timestamp.Faithful := by
  rintro src t d rfl
  simp only [timestamp, Document.decodeTimestamp, Time.Timestamp.read_text]

theorem items_decode {c : Codec α} (h : c.Faithful) (src : Source) (xs : List α)
    (ds : List Document) (shown : Json.ItemsShownBy (xs.map c.encode) ds) :
    Document.decodeItems (c.decode src) ds = .ok xs := by
  induction xs generalizing ds with
  | nil =>
    simp only [List.map_nil, Json.ItemsShownBy] at shown
    subst ds
    rfl
  | cons x xs ih =>
    obtain ⟨d, tail, rfl, first, rest⟩ := shown
    simp only [Document.decodeItems, h src x d first, ih tail rest]
    rfl

theorem list_faithful {c : Codec α} (h : c.Faithful) : c.list.Faithful := by
  intro src xs d shown
  obtain ⟨ds, rfl, items⟩ := shown
  simp only [list, Document.decodeList, items_decode h src xs ds items]
  cases src <;> rfl

/-- Nothing is encoded as null, so null is free to stand for nothing. -/
def NeverNull (c : Codec α) : Prop := ∀ a, c.encode a ≠ .null

theorem shown_not_null {j : Json} {d : Document} (h : j.ShownBy d) (some : j ≠ .null) :
    d ≠ .null := by
  cases j with
  | null => exact absurd rfl some
  | bool b => subst h; simp
  | number n => subst h; simp
  | string s => subst h; simp
  | list items => obtain ⟨ds, rfl, _⟩ := h; simp
  | record fields => obtain ⟨ms, own, rfl, _⟩ := h; simp

theorem decodeOption_of_not_null (decode : Document → Decoded α) {d : Document}
    (h : d ≠ .null) : decodeOption decode d = (decode d).map some := by
  cases d <;> first | rfl | exact absurd rfl h

theorem decodeOption_shown {c : Codec α} (h : c.Faithful) (never : c.NeverNull) (src : Source)
    (a : α) (d : Document) (shown : (c.encode a).ShownBy d) :
    decodeOption (c.decode src) d = .ok (some a) := by
  rw [decodeOption_of_not_null _ (shown_not_null shown (never a)), h src a d shown]
  rfl

theorem option_faithful {c : Codec α} (h : c.Faithful) (never : c.NeverNull) :
    c.option.Faithful := by
  intro src a d shown
  cases a with
  | none =>
    simp only [option, Json.optional, Json.ShownBy] at shown
    subst d
    rfl
  | some a => exact decodeOption_shown h never src a d shown

theorem orDefault_faithful {c : Codec α} (h : c.Faithful) (never : c.NeverNull) (a : α) :
    (c.orDefault a).Faithful := by
  intro src x d shown
  simp only [orDefault, decodeOption_shown h never src x d shown]
  rfl

end Codec

namespace Field

/-- A field reads what it writes, and when it writes nothing it is read as what is missing. -/
structure Faithful (f : Field α) : Prop where
  shown : ∀ src a j d, f.encode a = some j → j.ShownBy d → f.decode src d = .ok a
  missing : ∀ a, f.encode a = none → f.missing = some a

theorem required_faithful (name : String) {c : Codec α} (h : c.Faithful) :
    (required name c).Faithful := by
  refine ⟨fun src a j d eq shown => ?_, fun a eq => ?_⟩
  · simp only [required, Option.some.injEq] at eq
    subst j
    exact h src a d shown
  · simp [required] at eq

theorem defaulted_faithful (name : String) {c : Codec α} (h : c.Faithful) (a : α) :
    (defaulted name c a).Faithful := by
  refine ⟨fun src a j d eq shown => ?_, fun a eq => ?_⟩
  · simp only [defaulted, Option.some.injEq] at eq
    subst j
    exact h src a d shown
  · simp [defaulted] at eq

theorem nullable_faithful (name : String) {c : Codec α} (h : c.Faithful) (never : c.NeverNull) :
    (nullable name c).Faithful := defaulted_faithful name (Codec.option_faithful h never) none

theorem optional_faithful (name : String) {c : Codec α} (h : c.Faithful) (never : c.NeverNull) :
    (optional name c).Faithful := by
  refine ⟨fun src a j d eq shown => ?_, fun a eq => ?_⟩
  · obtain ⟨x, rfl, rfl⟩ := Option.map_eq_some_iff.mp eq
    exact Codec.decodeOption_shown h never src x d shown
  · cases a with
    | none => rfl
    | some x => simp [optional] at eq

end Field

end IdentitySync
