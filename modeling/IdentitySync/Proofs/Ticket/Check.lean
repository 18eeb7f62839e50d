import IdentitySync.Proofs.Collection.KeyedMap
import IdentitySync.Ticket.Check

/-!
Which tickets follow a schema. For every field that the schema declares, a ticket has a value that
the field takes, or has none and the field does without one. All else is a fault, and of several the
one with the least field id is reported. A schema that asks for less takes every ticket that was
taken before, and values of fields that are not declared are not looked at.
-/
namespace IdentitySync

/-- A value of the kind that a field asks for, filled in if the field is required. -/
inductive FieldValue.Fits (required : Bool) : FieldKind → FieldValue → Prop where
  | text {s : String} (filled : required = true → s ≠ "") : Fits required .text (.text s)
  | texts {xs : List String} (filled : required = true → xs ≠ []) : Fits required .texts (.texts xs)
  | flag (b : Bool) : Fits required .flag (.flag b)
  | moment (t : Time.Timestamp) : Fits required .moment (.moment t)
  | pick {allowed : List String} {s : String} (offered : s ∈ allowed) (filled : s ≠ "") :
      Fits required (.pick allowed) (.pick s)
  | noPick {allowed : List String} (optional : required = false) :
      Fits required (.pick allowed) (.pick "")
  | picks {allowed xs : List String} (offered : ∀ x ∈ xs, x ∈ allowed)
      (filled : required = true → xs ≠ []) : Fits required (.picks allowed) (.picks xs)

inductive FieldValue.OfKind : FieldKind → FieldValue → Prop where
  | text (s : String) : OfKind .text (.text s)
  | texts (xs : List String) : OfKind .texts (.texts xs)
  | flag (b : Bool) : OfKind .flag (.flag b)
  | moment (t : Time.Timestamp) : OfKind .moment (.moment t)
  | pick (allowed : List String) (s : String) : OfKind (.pick allowed) (.pick s)
  | picks (allowed xs : List String) : OfKind (.picks allowed) (.picks xs)

namespace TicketField

/-- What a ticket may have for a field: a value that fits, or none if the field is not required. -/
def Takes (f : TicketField) : Option FieldValue → Prop
  | some v => v.Fits f.required f.kind
  | none => f.required = false

/-- What is wrong with what a ticket has for the field that is declared under `id`. Of several picks
    it is the first that is not allowed. -/
inductive Faulty (f : TicketField) (id : String) : Option FieldValue → TicketFault → Prop where
  | missing (required : f.required = true) : Faulty f id none (.missing id)
  | noText (kind : f.kind = .text) (required : f.required = true) :
      Faulty f id (some (.text "")) (.empty id)
  | noTexts (kind : f.kind = .texts) (required : f.required = true) :
      Faulty f id (some (.texts [])) (.empty id)
  | noPick {allowed : List String} (kind : f.kind = .pick allowed) (required : f.required = true) :
      Faulty f id (some (.pick "")) (.empty id)
  | badPick {allowed : List String} {s : String} (kind : f.kind = .pick allowed) (filled : s ≠ "")
      (foreign : s ∉ allowed) : Faulty f id (some (.pick s)) (.notAllowed s id)
  | noPicks {allowed : List String} (kind : f.kind = .picks allowed)
      (required : f.required = true) : Faulty f id (some (.picks [])) (.empty id)
  | badPicks {allowed before after : List String} {x : String} (kind : f.kind = .picks allowed)
      (offered : ∀ y ∈ before, y ∈ allowed) (foreign : x ∉ allowed) :
      Faulty f id (some (.picks (before ++ x :: after))) (.notAllowed x id)
  | wrongKind {v : FieldValue} (other : ¬v.OfKind f.kind) :
      Faulty f id (some v) (.wrongKind f.kind id)

variable {f : TicketField} {id : String} {v : Option FieldValue}

theorem takes_of_fits {k : FieldKind} {v : FieldValue} (kind : f.kind = k)
    (fits : v.Fits f.required k) : f.Takes (some v) := by
  rw [Takes, kind]
  exact fits

theorem picks_taken_or_faulty {allowed : List String} (kind : f.kind = .picks allowed) (id : String)
    (xs : List String) :
    f.Takes (some (.picks xs)) ∨ ∃ fault, f.Faulty id (some (.picks xs)) fault := by
  cases found : xs.find? fun x => decide (x ∉ allowed) with
  | some x =>
    obtain ⟨foreign, before, after, parts, offered⟩ := List.find?_eq_some_iff_append.mp found
    rw [parts]
    right
    exact ⟨_, .badPicks kind (by simpa using offered) (of_decide_eq_true foreign)⟩
  | none =>
    have offered : ∀ x ∈ xs, x ∈ allowed := by simpa using found
    by_cases unfilled : f.required = true ∧ xs = []
    · obtain ⟨required, rfl⟩ := unfilled
      exact .inr ⟨_, .noPicks kind required⟩
    · left
      apply takes_of_fits kind
      exact .picks offered fun required blank => unfilled ⟨required, blank⟩

theorem takes_or_faulty (f : TicketField) (id : String) (v : Option FieldValue) :
    f.Takes v ∨ ∃ fault, f.Faulty id v fault := by
  cases v with
  | none =>
    cases required : f.required with
    | true => exact .inr ⟨_, .missing required⟩
    | false => exact .inl required
  | some v =>
    -- A value of the kind is judged by what it says, any other one is wrong whatever it says.
    by_cases same : v.OfKind f.kind
    · generalize kind : f.kind = k at same
      cases same with
      | text s =>
        by_cases unfilled : f.required = true ∧ s = ""
        · obtain ⟨required, rfl⟩ := unfilled
          exact .inr ⟨_, .noText kind required⟩
        · left
          apply takes_of_fits kind
          exact .text fun required blank => unfilled ⟨required, blank⟩
      | texts xs =>
        by_cases unfilled : f.required = true ∧ xs = []
        · obtain ⟨required, rfl⟩ := unfilled
          exact .inr ⟨_, .noTexts kind required⟩
        · left
          apply takes_of_fits kind
          exact .texts fun required blank => unfilled ⟨required, blank⟩
      | flag b => exact .inl (takes_of_fits kind (.flag b))
      | moment t => exact .inl (takes_of_fits kind (.moment t))
      | pick allowed s =>
        by_cases blank : s = ""
        · subst blank
          cases required : f.required with
          | true => exact .inr ⟨_, .noPick kind required⟩
          | false => exact .inl (takes_of_fits kind (.noPick required))
        · by_cases offered : s ∈ allowed
          · exact .inl (takes_of_fits kind (.pick offered blank))
          · exact .inr ⟨_, .badPick kind blank offered⟩
      | picks allowed xs => exact picks_taken_or_faulty kind id xs
    · exact .inr ⟨_, .wrongKind same⟩

theorem fault?_of_fits {v : FieldValue} (fits : v.Fits f.required f.kind) :
    f.fault? id v = none := by
  have unfilled : ∀ {empty : Prop} [Decidable empty] {fault : TicketFault},
      (f.required = true → ¬empty) →
        (if f.required = true ∧ empty then some fault else none) = none := by
    intro empty _ fault filled
    apply if_neg
    intro ⟨required, blank⟩
    exact filled required blank
  generalize kind : f.kind = k at fits
  unfold fault?
  rw [kind]
  cases fits with
  | text filled => exact unfilled filled
  | texts filled => exact unfilled filled
  | flag b => rfl
  | moment t => rfl
  | pick offered filled => simp only [if_neg filled, if_pos offered]
  | noPick optional => simp only [optional, Bool.false_eq_true, ↓reduceIte]
  | picks offered filled =>
    simp only
    rw [if_neg (fun blank => filled blank.1 blank.2), Option.map_eq_none_iff, List.find?_eq_none]
    intro x hx
    simpa using offered x hx

theorem entryFault?_of_takes (takes : f.Takes v) : f.entryFault? id v = none := by
  cases v with
  | none =>
    have optional : f.required = false := takes
    simp only [entryFault?, optional, Bool.false_eq_true, ↓reduceIte]
  | some v => exact fault?_of_fits takes

theorem fault?_of_otherKind {v : FieldValue} (other : ¬v.OfKind f.kind) :
    f.fault? id v = some (.wrongKind f.kind id) := by
  generalize kind : f.kind = k at other
  unfold fault?
  rw [kind]
  split
  · exact absurd (.text _) other
  · exact absurd (.texts _) other
  · exact absurd (.flag _) other
  · exact absurd (.moment _) other
  · exact absurd (.pick _ _) other
  · exact absurd (.picks _ _) other
  · rfl

theorem entryFault?_of_faulty {fault : TicketFault} (faulty : f.Faulty id v fault) :
    f.entryFault? id v = some fault := by
  cases faulty with
  | missing required => simp only [entryFault?, required, ↓reduceIte]
  | noText kind required => simp only [entryFault?, fault?, kind, required, and_self, ↓reduceIte]
  | noTexts kind required => simp only [entryFault?, fault?, kind, required, and_self, ↓reduceIte]
  | noPick kind required => simp only [entryFault?, fault?, kind, required, ↓reduceIte]
  | badPick kind filled foreign =>
    simp only [entryFault?, fault?, kind, if_neg filled, if_neg foreign]
  | noPicks kind required => simp only [entryFault?, fault?, kind, required, and_self, ↓reduceIte]
  | @badPicks allowed before after x kind offered foreign =>
    have found : (before ++ x :: after).find? (fun y => decide (y ∉ allowed)) = some x :=
      List.find?_eq_some_iff_append.mpr
        ⟨decide_eq_true foreign, before, after, rfl, by simpa using offered⟩
    simp only [entryFault?, fault?, kind, List.append_eq_nil_iff, reduceCtorEq, and_false,
      ↓reduceIte, found, Option.map_some]
  | wrongKind other => exact fault?_of_otherKind other

theorem entryFault?_eq_none_iff : f.entryFault? id v = none ↔ f.Takes v := by
  constructor
  · intro sound
    rcases f.takes_or_faulty id v with takes | ⟨fault, faulty⟩
    · exact takes
    · rw [entryFault?_of_faulty faulty] at sound
      cases sound
  · exact entryFault?_of_takes

theorem entryFault?_eq_some_iff {fault : TicketFault} :
    f.entryFault? id v = some fault ↔ f.Faulty id v fault := by
  constructor
  · intro found
    rcases f.takes_or_faulty id v with takes | ⟨other, faulty⟩
    · rw [entryFault?_of_takes takes] at found
      cases found
    · rw [entryFault?_of_faulty faulty] at found
      cases found
      exact faulty
  · exact entryFault?_of_faulty

end TicketField

def TicketFault.Names (fault : TicketFault) (id : String) : Prop :=
  ∃ before after, fault.message = before ++ "'" ++ id ++ "'" ++ after

theorem TicketField.Faulty.names {f : TicketField} {id : String} {v : Option FieldValue}
    {fault : TicketFault} (faulty : f.Faulty id v fault) : fault.Names id := by
  have missing : (TicketFault.missing id).Names id := by
    refine ⟨"missing required field ", "", ?_⟩
    rw [String.append_empty]
    rfl
  have empty : (TicketFault.empty id).Names id := by
    refine ⟨"required field ", " is empty", ?_⟩
    rw [@String.append_assoc (_ ++ id)]
    rfl
  have notAllowed : ∀ value, (TicketFault.notAllowed value id).Names id := by
    intro value
    refine ⟨"value '" ++ value ++ "' is not allowed for field ", "", ?_⟩
    rw [String.append_empty, @String.append_assoc ("value '" ++ value)]
    rfl
  have wrongKind : ∀ kind, (TicketFault.wrongKind kind id).Names id := by
    intro kind
    refine ⟨"field ", " expects a value of type " ++ kind.shown, ?_⟩
    rw [← String.append_assoc, @String.append_assoc (_ ++ id)]
    rfl
  cases faulty with
  | missing => exact missing
  | noText => exact empty
  | noTexts => exact empty
  | noPick => exact empty
  | badPick => exact notAllowed _
  | noPicks => exact empty
  | badPicks => exact notAllowed _
  | wrongKind => exact wrongKind _

/-- A kind that has the values of another one, with as many texts to pick from or more. -/
inductive FieldKind.WidensTo : FieldKind → FieldKind → Prop where
  | same (kind : FieldKind) : WidensTo kind kind
  | pick {allowed more : List String} (h : allowed ⊆ more) : WidensTo (.pick allowed) (.pick more)
  | picks {allowed more : List String} (h : allowed ⊆ more) :
      WidensTo (.picks allowed) (.picks more)

structure TicketField.RelaxesTo (f f' : TicketField) : Prop where
  required : f'.required = true → f.required = true
  kind : f.kind.WidensTo f'.kind

theorem TicketField.Takes.relaxed {f f' : TicketField} {v : Option FieldValue} (takes : f.Takes v)
    (relaxed : f.RelaxesTo f') : f'.Takes v := by
  have optional : f.required = false → f'.required = false := by
    intro free
    rw [Bool.eq_false_iff] at free ⊢
    intro required
    exact free (relaxed.required required)
  cases v with
  | none => exact optional takes
  | some v =>
    have wider := relaxed.kind
    unfold Takes at takes ⊢
    generalize f.kind = kind at takes wider
    generalize f'.kind = kind' at wider ⊢
    cases takes with
    | text filled =>
      cases wider
      exact .text fun required => filled (relaxed.required required)
    | texts filled =>
      cases wider
      exact .texts fun required => filled (relaxed.required required)
    | flag b =>
      cases wider
      exact .flag b
    | moment t =>
      cases wider
      exact .moment t
    | pick offered filled =>
      cases wider with
      | same => exact .pick offered filled
      | pick more => exact .pick (more offered) filled
    | noPick free =>
      cases wider with
      | same => exact .noPick (optional free)
      | pick more => exact .noPick (optional free)
    | picks offered filled =>
      cases wider with
      | same => exact .picks offered fun required => filled (relaxed.required required)
      | picks more =>
        exact .picks (fun x hx => more (offered x hx)) fun required =>
          filled (relaxed.required required)

def Ticket.AgreesOn (s : TicketSchema) (t t' : Ticket) : Prop :=
  ∀ id, s.customFields.contains id = true → t.customFields.get? id = t'.customFields.get? id

namespace TicketSchema

variable {s s' : TicketSchema} {t t' : Ticket}

def Accepts (s : TicketSchema) (t : Ticket) : Prop :=
  ∀ id field, s.customFields.get? id = some field → field.Takes (t.customFields.get? id)

/-- Something is wrong with the declared field `id`, and with none that has a lesser id. -/
structure Blames (s : TicketSchema) (t : Ticket) (id : String) (fault : TicketFault) : Prop where
  faulty : ∃ field, s.customFields.get? id = some field ∧
    field.Faulty id (t.customFields.get? id) fault
  least : ∀ other field, other < id → s.customFields.get? other = some field →
    field.Takes (t.customFields.get? other)

/-- What the schema `s'` declares `s` declares too, and asks for as much or more. -/
def RelaxesTo (s s' : TicketSchema) : Prop :=
  ∀ id field', s'.customFields.get? id = some field' →
    ∃ field, s.customFields.get? id = some field ∧ field.RelaxesTo field'

theorem Accepts.relaxed (accepts : s.Accepts t) (relaxed : s.RelaxesTo s') : s'.Accepts t := by
  intro id field' declared
  obtain ⟨field, declared', less⟩ := relaxed id field' declared
  exact (accepts id field declared').relaxed less

theorem fault?_eq_none_iff : s.fault? t = none ↔ s.Accepts t := by
  rw [fault?, List.findSome?_eq_none_iff]
  constructor
  · intro sound id field declared
    have own := (s.customFields.mem_entries_iff id field).mpr declared
    exact TicketField.entryFault?_eq_none_iff.mp (sound (id, field) own)
  · intro accepts p own
    have declared := (s.customFields.mem_entries_iff p.1 p.2).mp own
    exact TicketField.entryFault?_of_takes (accepts p.1 p.2 declared)

theorem fault?_eq_some_iff {fault : TicketFault} :
    s.fault? t = some fault ↔ ∃ id, s.Blames t id fault := by
  rw [fault?, List.findSome?_eq_some_iff]
  constructor
  · rintro ⟨before, ⟨id, field⟩, after, parts, found, sound⟩
    have own : (id, field) ∈ s.customFields.entries := by
      rw [parts]
      exact List.mem_append_right _ List.mem_cons_self
    have declared := (s.customFields.mem_entries_iff id field).mp own
    refine ⟨id, ⟨field, declared, TicketField.entryFault?_eq_some_iff.mp found⟩, ?_⟩
    intro other field' less declared'
    have own' := (s.customFields.mem_entries_iff other field').mpr declared'
    have first := (KeyedMap.mem_before_iff parts (other, field')).mpr ⟨own', less⟩
    exact TicketField.entryFault?_eq_none_iff.mp (sound (other, field') first)
  · rintro ⟨id, ⟨field, declared, faulty⟩, least⟩
    have own := (s.customFields.mem_entries_iff id field).mpr declared
    obtain ⟨before, after, parts⟩ := List.append_of_mem own
    refine ⟨before, (id, field), after, parts, TicketField.entryFault?_of_faulty faulty, ?_⟩
    intro p first
    obtain ⟨own', less⟩ := (KeyedMap.mem_before_iff parts p).mp first
    have declared' := (s.customFields.mem_entries_iff p.1 p.2).mp own'
    exact TicketField.entryFault?_of_takes (least p.1 p.2 less declared')

theorem Blames.of_agreesOn {id : String} {fault : TicketFault} (blames : s.Blames t id fault)
    (agrees : t.AgreesOn s t') : s.Blames t' id fault := by
  have same : ∀ id field, s.customFields.get? id = some field →
      t'.customFields.get? id = t.customFields.get? id := by
    intro id field declared
    exact (agrees id ((s.customFields.contains_iff id).mpr ⟨field, declared⟩)).symm
  obtain ⟨⟨field, declared, faulty⟩, least⟩ := blames
  constructor
  · refine ⟨field, declared, ?_⟩
    rw [same id field declared]
    exact faulty
  · intro other field' less declared'
    rw [same other field' declared']
    exact least other field' less declared'

theorem fault?_eq_of_agreesOn (agrees : t.AgreesOn s t') : s.fault? t = s.fault? t' := by
  apply Option.ext
  intro fault
  rw [fault?_eq_some_iff, fault?_eq_some_iff]
  constructor
  · intro ⟨id, blames⟩
    exact ⟨id, blames.of_agreesOn agrees⟩
  · intro ⟨id, blames⟩
    exact ⟨id, blames.of_agreesOn fun id declared => (agrees id declared).symm⟩

end TicketSchema

end IdentitySync
