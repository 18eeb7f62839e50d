import IdentitySync.Proofs.Json.Exact

/-!
Codecs that read more than they write: a member may be missing or null, a record may come as a
list, what cannot be read may be left out. Whatever such a codec makes of a document is then read
back from what it writes of it. For a record it is enough that this holds of each field, of what the
field reads and of what it takes for a member that is missing.
-/
namespace IdentitySync

namespace Codec

def Stable (c : Codec α) : Prop := ∀ src d a, c.decode src d = .ok a → c.ReadsBack a

theorem Faithful.stable {c : Codec α} (h : c.Faithful) : c.Stable := fun _ _ a _ => h.readsBack a

/-- What was decoded, from whatever document, is decoded again from the value and from the text to
    which it is encoded. -/
def Settles (c : Codec α) : Prop :=
  ∀ src d a, c.decode src d = .ok a →
    (∃ v, c.toValue? a = some v ∧ c.ofValue v = .ok a) ∧ c.read (c.encode a).text = .ok a

theorem Stable.settles {c : Codec α} {h : Nat} (stable : c.Stable) (fits : c.Fits h)
    (room : h ≤ Json.Machine.depthLimit) : c.Settles := by
  intro src d a decoded
  have back := stable src d a decoded
  exact ⟨back.of_value (fits a).distinct, back.read_text (fits a) room⟩

end Codec

namespace Field

structure Stable (f : Field α) : Prop where
  read : ∀ src d a, f.decode src d = .ok a → f.ReadsBack a
  missing : ∀ a, f.missing = some a → f.ReadsBack a
  missingAtEnd : ∀ a, f.missingAtEnd = some a → f.ReadsBack a

theorem Faithful.stable {f : Field α} (h : f.Faithful) : f.Stable :=
  ⟨fun _ _ a _ => h.readsBack a, fun a _ => h.readsBack a, fun a _ => h.readsBack a⟩

theorem defaulted_readsBack (name : String) {c : Codec α} {a : α} (back : c.ReadsBack a)
    (default : α) : (defaulted name c default).ReadsBack a := by
  refine ⟨fun src j d written shown => ?_, nofun⟩
  cases written
  exact back src d shown

theorem defaulted_stable (name : String) {c : Codec α} (h : c.Stable) {default : α}
    (back : c.ReadsBack default) : (defaulted name c default).Stable := by
  refine ⟨fun src d a decoded => ?_, fun a taken => ?_, fun a taken => ?_⟩
  · exact defaulted_readsBack name (h src d a decoded) default
  · cases taken
    exact defaulted_readsBack name back default
  · cases taken
    exact defaulted_readsBack name back default

end Field

theorem Source.of_place {src : Source} {r : Decoded α} {a : α} (placed : src.place r = .ok a) :
    r = .ok a := by
  cases r with
  | ok b =>
    cases src <;> exact placed
  | error e =>
    cases src <;> cases e <;> cases placed

theorem of_checkEnd {src : Source} {total used : Nat} {closed : Bool} {a b : α}
    (ended : checkEnd src total used closed a = .ok b) : a = b := by
  unfold checkEnd at ended
  split at ended
  · cases ended
    rfl
  · cases src <;> cases ended

namespace Fields

def Stable : Fields τ σ → Prop
  | .nil => True
  | .cons f rest => f.Stable ∧ (∀ k ∈ rest.names, f.answersTo k = false) ∧ rest.Stable

def Holds : Fields τ σ → σ → Prop
  | .nil, _ => True
  | .cons f rest, (slot, slots) => (∀ a, slot = some a → f.ReadsBack a) ∧ rest.Holds slots

theorem blank_holds (fs : Fields τ σ) : fs.Holds fs.blank := by
  induction fs with
  | nil => trivial
  | cons f rest ih => exact ⟨nofun, ih⟩

theorem put_holds {fs : Fields τ σ} (stable : fs.Stable) {src : Source} {key : String}
    {d : Document} {slots slots' : σ} (put : fs.put src key d slots = some (.ok slots'))
    (holds : fs.Holds slots) : fs.Holds slots' := by
  induction fs with
  | nil => cases put
  | cons f rest ih =>
    obtain ⟨slot, others⟩ := slots
    simp only [Fields.put] at put
    split at put
    · cases slot with
      | some taken => cases put
      | none =>
        cases read : f.decode src d with
        | error e =>
          rw [read] at put
          cases put
        | ok a =>
          rw [read] at put
          cases put
          refine ⟨fun b same => ?_, holds.2⟩
          cases same
          exact stable.1.read src d a read
    · obtain ⟨r, inner, same⟩ := Option.map_eq_some_iff.mp put
      cases r with
      | error e => cases same
      | ok others' =>
        cases same
        exact ⟨holds.1, ih stable.2.2 inner holds.2⟩

theorem fill_holds {fs : Fields τ σ} (stable : fs.Stable) {src : Source}
    {ms : List (Option String × Document)} {slots slots' : σ}
    (filled : fs.fill src ms slots = .ok slots') (holds : fs.Holds slots) : fs.Holds slots' := by
  induction ms generalizing slots with
  | nil =>
    cases filled
    exact holds
  | cons m ms ih =>
    obtain ⟨key, d⟩ := m
    cases key with
    | none => cases filled
    | some key =>
      simp only [fill] at filled
      split at filled
      · cases filled
      · rename_i put
        exact ih filled (put_holds stable put holds)
      · split at filled
        · exact ih filled holds
        · cases filled

theorem gather_readsBack {fs : Fields τ σ} (stable : fs.Stable) {slots : σ} {a : τ}
    (gathered : fs.gather slots = .ok a) (holds : fs.Holds slots) : fs.ReadsBack a := by
  induction fs with
  | nil => trivial
  | cons f rest ih =>
    obtain ⟨slot, others⟩ := slots
    simp only [gather] at gathered
    cases own : ofSlot f slot with
    | error e =>
      rw [own] at gathered
      cases gathered
    | ok x =>
      rw [own] at gathered
      cases remaining : rest.gather others with
      | error e =>
        rw [remaining] at gathered
        cases gathered
      | ok b =>
        rw [remaining] at gathered
        cases gathered
        refine ⟨?_, stable.2.1, ih stable.2.2 remaining holds.2⟩
        cases slot with
        | some y =>
          cases own
          exact holds.1 x rfl
        | none =>
          simp only [ofSlot] at own
          split at own
          · rename_i taken
            cases own
            exact stable.1.missing x taken
          · cases own

theorem ofItems_readsBack {fs : Fields τ σ} (stable : fs.Stable) {src : Source}
    {expected : String} {closed : Bool} {n : Nat} {items rest : List Document} {a : τ}
    (read : fs.ofItems src expected closed n items = .ok (a, rest)) : fs.ReadsBack a := by
  induction fs generalizing n items rest with
  | nil => trivial
  | cons f others ih =>
    -- What follows the field's own value, whether that was an item or was missing at the end.
    have goesOn : ∀ {x : _} {items : List Document}, f.ReadsBack x →
        ((others.ofItems src expected closed (n + 1) items).map fun r => ((x, r.1), r.2)) =
          .ok (a, rest) → (Fields.cons f others).ReadsBack a := by
      intro x items own mapped
      cases following : others.ofItems src expected closed (n + 1) items with
      | error e =>
        rw [following] at mapped
        cases mapped
      | ok r =>
        rw [following] at mapped
        cases mapped
        exact ⟨own, stable.2.1, ih stable.2.2 following⟩
    cases items with
    | nil =>
      simp only [ofItems] at read
      split at read
      · cases read
      · split at read
        · cases read
        · rename_i taken
          exact goesOn (stable.1.missingAtEnd _ taken) read
    | cons d items =>
      simp only [ofItems] at read
      split at read
      · cases read
      · rename_i decoded
        exact goesOn (stable.1.read src d _ decoded) read

theorem decode_readsBack {fs : Fields τ σ} (stable : fs.Stable) {title : String} {src : Source}
    {d : Document} {a : τ} (decoded : fs.decode title src d = .ok a) : fs.ReadsBack a := by
  cases d with
  | record ms closed =>
    have read := Source.of_place decoded
    split at read
    · cases read
    · rename_i filled
      split at read
      · exact gather_readsBack stable read (fill_holds stable filled (blank_holds fs))
      · cases read
  | list items closed =>
    have read := Source.of_place decoded
    split at read
    · cases read
    · rename_i items'
      cases of_checkEnd read
      exact ofItems_readsBack stable items'
  | _ => cases decoded

end Fields

namespace Codec

theorem record_stable {title : String} {fs : Fields τ σ} (stable : fs.Stable) {view : α → τ}
    {make : τ → α} (inverse : ∀ a, make (view a) = a) (parts : ∀ t, view (make t) = t) :
    (record title fs view make).Stable := by
  intro src d a decoded
  simp only [record] at decoded
  cases read : fs.decode title src d with
  | error e =>
    rw [read] at decoded
    cases decoded
  | ok t =>
    rw [read] at decoded
    cases decoded
    refine record_readsBack ?_ (inverse _)
    rw [parts]
    exact Fields.decode_readsBack stable read

end Codec

end IdentitySync
