import IdentitySync.Proofs.Json.Members

/-!
Records with one part left open. The part is put in as the member with a field's key or as the item
in the field's place, and decides the value of this field alone. Everything else about the record is
read in the same way, and has the same faults, whatever the field reads from the part.
-/
namespace IdentitySync

inductive Frame where
  | members (before : List (Option String × Document)) (key : String)
      (after : List (Option String × Document)) (closed : Bool)
  | items (before after : List Document) (closed : Bool)

def Frame.plug : Frame → Document → Document
  | .members before key after closed, d => .record (before ++ (some key, d) :: after) closed
  | .items before after closed, d => .list (before ++ d :: after) closed

namespace Fields

variable {α β : Type}

inductive Place (f : Field α) : {τ σ : Type} → Fields τ σ → Type 1 where
  | here {β σ : Type} (rest : Fields β σ) : Place f (.cons f rest)
  | there {β τ σ : Type} (g : Field β) {rest : Fields τ σ} (p : Place f rest) :
      Place f (.cons g rest)

namespace Place

def set {f : Field α} : {τ σ : Type} → {fs : Fields τ σ} → Place f fs → α → τ → τ
  | _, _, _, .here _, a, (_, values) => (a, values)
  | _, _, _, .there _ p, a, (x, values) => (x, p.set a values)

def fillSlot {f : Field α} : {τ σ : Type} → {fs : Fields τ σ} → Place f fs → α → σ → σ
  | _, _, _, .here _, a, (_, slots) => (some a, slots)
  | _, _, _, .there _ p, a, (slot, slots) => (slot, p.fillSlot a slots)

def index {f : Field α} : {τ σ : Type} → {fs : Fields τ σ} → Place f fs → Nat
  | _, _, _, .here _ => 0
  | _, _, _, .there _ p => p.index + 1

def Takes {f : Field α} (key : String) : {τ σ : Type} → {fs : Fields τ σ} → Place f fs → Prop
  | _, _, _, .here _ => f.answersTo key = true
  | _, _, _, .there g p => g.answersTo key = false ∧ p.Takes key

end Place

variable {τ σ : Type} {f : Field α} {fs : Fields τ σ}

/-- Once the field's slot is filled, what it is filled with does not matter for other members. -/
theorem put_fillSlot (p : Place f fs) (src : Source) (key : String) (d : Document) (slots : σ) :
    ∃ r : Option (Decoded σ), ∀ a,
      fs.put src key d (p.fillSlot a slots) = r.map (Except.map (p.fillSlot a)) := by
  induction p with
  | here rest =>
    -- The field's own key comes a second time and is refused; any other goes to the fields behind.
    obtain ⟨slot, others⟩ := slots
    by_cases own : f.answersTo key = true
    · refine ⟨some (.error (.duplicateField f.name)), ?_⟩
      intro a
      simp only [Place.fillSlot, put, own, ↓reduceIte]
      rfl
    · refine ⟨(rest.put src key d others).map (Except.map fun filled => (none, filled)), ?_⟩
      intro a
      simp only [Place.fillSlot, put, own, Bool.false_eq_true, ↓reduceIte]
      cases rest.put src key d others with
      | none => rfl
      | some r => cases r <;> rfl
  | there g p ih =>
    obtain ⟨slot, others⟩ := slots
    by_cases own : g.answersTo key = true
    · cases slot with
      | some taken =>
        refine ⟨some (.error (.duplicateField g.name)), ?_⟩
        intro a
        simp only [Place.fillSlot, put, own, ↓reduceIte]
        rfl
      | none =>
        refine ⟨some ((g.decode src d).map fun b => (some b, others)), ?_⟩
        intro a
        simp only [Place.fillSlot, put, own, ↓reduceIte]
        cases g.decode src d <;> rfl
    · obtain ⟨r, same⟩ := ih others
      refine ⟨r.map (Except.map fun filled => (slot, filled)), ?_⟩
      intro a
      simp only [Place.fillSlot, put, own, Bool.false_eq_true, ↓reduceIte, same]
      cases r with
      | none => rfl
      | some r => cases r <;> rfl

theorem fill_fillSlot (p : Place f fs) (src : Source) (ms : List (Option String × Document))
    (slots : σ) :
    ∃ r : Decoded σ, ∀ a, fs.fill src ms (p.fillSlot a slots) = r.map (p.fillSlot a) := by
  induction ms generalizing slots with
  | nil => exact ⟨.ok slots, fun a => rfl⟩
  | cons m ms ih =>
    obtain ⟨key, d⟩ := m
    cases key with
    | none => exact ⟨.error .malformed, fun a => rfl⟩
    | some key =>
      obtain ⟨r, put⟩ := put_fillSlot p src key d slots
      cases r with
      | none =>
        by_cases whole : d.intact = true
        · obtain ⟨r, rest⟩ := ih slots
          refine ⟨r, ?_⟩
          intro a
          simp only [fill, put, Option.map_none, whole, ↓reduceIte, rest]
        · refine ⟨.error .malformed, ?_⟩
          intro a
          simp only [fill, put, Option.map_none, whole, Bool.false_eq_true, ↓reduceIte]
          rfl
      | some r =>
        cases r with
        | error e =>
          refine ⟨.error e, ?_⟩
          intro a
          simp only [fill, put, Option.map_some, Except.map]
        | ok filled =>
          obtain ⟨r, rest⟩ := ih filled
          refine ⟨r, ?_⟩
          intro a
          simp only [fill, put, Option.map_some, Except.map, rest]

theorem gather_fillSlot (p : Place f fs) (slots : σ) (a a' : α) :
    fs.gather (p.fillSlot a' slots) = (fs.gather (p.fillSlot a slots)).map (p.set a') := by
  induction p with
  | here rest =>
    simp only [Place.fillSlot, gather, ofSlot]
    cases rest.gather slots.2 <;> rfl
  | @there _ _ _ g rest p ih =>
    simp only [Place.fillSlot, gather]
    cases ofSlot g slots.1 with
    | error e => rfl
    | ok x =>
      simp only [ih slots.2]
      cases rest.gather (p.fillSlot a slots.2) <;> rfl

theorem put_own {p : Place f fs} {key : String} (takes : p.Takes key) (src : Source) (slots : σ) :
    (∃ e, ∀ d, fs.put src key d slots = some (.error e)) ∨
      ∀ d, fs.put src key d slots = some ((f.decode src d).map fun a => p.fillSlot a slots) := by
  induction p with
  | here rest =>
    obtain ⟨slot, others⟩ := slots
    have own : f.answersTo key = true := takes
    cases slot with
    | some taken =>
      refine .inl ⟨.duplicateField f.name, ?_⟩
      intro d
      simp only [put, own, ↓reduceIte]
    | none =>
      right
      intro d
      simp only [put, own, ↓reduceIte, Place.fillSlot]
  | there g p ih =>
    obtain ⟨slot, others⟩ := slots
    obtain ⟨other, takes⟩ := takes
    rcases ih takes others with ⟨e, taken⟩ | unfilled
    · refine .inl ⟨e, ?_⟩
      intro d
      simp only [put, other, Bool.false_eq_true, ↓reduceIte, taken]
      rfl
    · right
      intro d
      simp only [put, other, Bool.false_eq_true, ↓reduceIte, unfilled, Place.fillSlot]
      cases f.decode src d <;> rfl

theorem fill_plug {p : Place f fs} {key : String} (takes : p.Takes key) (src : Source)
    (before after : List (Option String × Document)) (slots : σ) :
    ∃ r : Decoded σ, ∀ d a, f.decode src d = .ok a →
      fs.fill src (before ++ (some key, d) :: after) slots = r.map (p.fillSlot a) := by
  cases first : fs.fill src before slots with
  | error e =>
    refine ⟨.error e, ?_⟩
    intro d a _
    rw [fill_append, first]
    rfl
  | ok filled =>
    rcases put_own takes src filled with ⟨e, taken⟩ | own
    · refine ⟨.error e, ?_⟩
      intro d a _
      rw [fill_append, first]
      simp only [Except.bind, fill, taken]
      rfl
    · obtain ⟨r, rest⟩ := fill_fillSlot p src after filled
      refine ⟨r, ?_⟩
      intro d a read
      rw [fill_append, first]
      simp only [Except.bind, fill, own, read, Except.map, rest]

theorem ofItems_plug (p : Place f fs) {src : Source} {d d' : Document} {a a' : α}
    (read : f.decode src d = .ok a) (read' : f.decode src d' = .ok a') (expected : String)
    (closed : Bool) (n : Nat) {before : List Document} (placed : before.length = p.index)
    (after : List Document) :
    fs.ofItems src expected closed n (before ++ d' :: after) =
      (fs.ofItems src expected closed n (before ++ d :: after)).map
        fun r => (p.set a' r.1, r.2) := by
  induction p generalizing n before with
  | here rest =>
    obtain rfl := List.length_eq_zero_iff.mp placed
    simp only [List.nil_append, ofItems, read, read']
    cases rest.ofItems src expected closed (n + 1) after <;> rfl
  | @there _ _ _ g rest p ih =>
    obtain ⟨x, before, rfl⟩ := List.exists_cons_of_length_eq_add_one placed
    simp only [List.cons_append, ofItems]
    cases g.decode src x with
    | error e => rfl
    | ok b =>
      simp only [ih (n + 1) (Nat.succ.inj placed)]
      cases rest.ofItems src expected closed (n + 1) (before ++ d :: after) <;> rfl

end Fields

theorem Source.place_map (src : Source) (r : Decoded α) (g : α → β) :
    src.place (r.map g) = (src.place r).map g := by
  cases r with
  | ok a => cases src <;> rfl
  | error e => cases src <;> cases e <;> rfl

theorem checkEnd_map (src : Source) (total used : Nat) (closed : Bool) (a : α) (g : α → β) :
    checkEnd src total used closed (g a) = (checkEnd src total used closed a).map g := by
  unfold checkEnd
  split
  · rfl
  · cases src <;> rfl

def Frame.OpensAt {f : Field α} {fs : Fields τ σ} (p : fs.Place f) : Frame → Prop
  | .members _ key _ _ => p.Takes key
  | .items before _ _ => before.length = p.index

/-- When the part is exchanged, only the value of its field changes. -/
theorem Fields.decode_plug {f : Field α} {fs : Fields τ σ} (p : Place f fs) {frame : Frame}
    (opens : frame.OpensAt p) (title : String) {src : Source} {d d' : Document} {a a' : α}
    (read : f.decode src d = .ok a) (read' : f.decode src d' = .ok a') :
    fs.decode title src (frame.plug d') = (fs.decode title src (frame.plug d)).map (p.set a') := by
  cases frame with
  | members before key after closed =>
    -- The slots differ in that of the field alone, or could not be filled for the same reason.
    obtain ⟨r, filled⟩ := fill_plug opens src before after fs.blank
    simp only [Frame.plug, decode, filled d a read, filled d' a' read']
    rw [← Source.place_map]
    congr 1
    cases r with
    | error e => rfl
    | ok slots =>
      cases closed with
      | false => rfl
      | true => exact gather_fillSlot p slots a a'
  | items before after closed =>
    simp only [Frame.plug, decode]
    rw [ofItems_plug p read read' _ closed 0 opens after, ← Source.place_map]
    congr 1
    cases fs.ofItems src (title ++ " with " ++ elements fs.count) closed 0
        (before ++ d :: after) with
    | error e => rfl
    | ok r =>
      simp only [Except.map, List.length_append, List.length_cons]
      exact checkEnd_map src _ _ closed r.1 (p.set a')

theorem Codec.record_plug {title : String} {f : Field α} {fs : Fields τ σ} {view : β → τ}
    {make : τ → β} (parts : ∀ t, view (make t) = t) (p : fs.Place f) {frame : Frame}
    (opens : frame.OpensAt p) {src : Source} {d d' : Document} {a a' : α}
    (read : f.decode src d = .ok a) (read' : f.decode src d' = .ok a') :
    (record title fs view make).decode src (frame.plug d') =
      ((record title fs view make).decode src (frame.plug d)).map
        fun x => make (p.set a' (view x)) := by
  simp only [record, Fields.decode_plug p opens title read read']
  cases fs.decode title src (frame.plug d) with
  | error e => rfl
  | ok t => simp only [Except.map, parts]

end IdentitySync
