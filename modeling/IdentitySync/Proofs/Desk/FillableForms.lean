import IdentitySync.Proofs.Desk.DeclaredFields
import IdentitySync.Proofs.Desk.LenientFields

/-!
Which forms can be filled in at all. There is a ticket that follows a schema exactly when every
choice that the schema requires is one between some texts: of a single one it takes a text that is
not empty, while of several even an empty text will do. The ticket that shows this has a sample for
every declared field.
-/
namespace IdentitySync

namespace FieldKind

/-- There is something to choose, if the kind is a choice. -/
def HasChoice : FieldKind → Prop
  | .pick allowed => ∃ x ∈ allowed, x ≠ ""
  | .picks allowed => allowed ≠ []
  | _ => True

instance : DecidablePred HasChoice
  | .pick allowed => inferInstanceAs (Decidable (∃ x ∈ allowed, x ≠ ""))
  | .picks allowed => inferInstanceAs (Decidable (allowed ≠ []))
  | .text => .isTrue trivial
  | .texts => .isTrue trivial
  | .flag => .isTrue trivial
  | .moment => .isTrue trivial

theorem hasChoice_iff {kind : FieldKind} : kind.HasChoice ↔
    (∀ allowed, kind = .pick allowed → ∃ x ∈ allowed, x ≠ "") ∧
    ∀ allowed, kind = .picks allowed → allowed ≠ [] := by
  cases kind <;> simp [HasChoice]

-- An empty text alone is no choice where one is to be chosen, but it is where several may be.
example : ¬(FieldKind.pick [""]).HasChoice ∧ (FieldKind.picks [""]).HasChoice := by decide

def sample : FieldKind → FieldValue
  | .text => .text "-"
  | .texts => .texts ["-"]
  | .flag => .flag true
  | .moment => .moment Desk.midnight
  | .pick allowed => .pick ((allowed.find? (· ≠ "")).getD "")
  | .picks allowed => .picks allowed

theorem sample_fits {required : Bool} {kind : FieldKind}
    (choice : required = true → kind.HasChoice) : kind.sample.Fits required kind := by
  cases kind with
  | text => exact .text fun _ => by decide
  | texts => exact .texts fun _ => List.cons_ne_nil _ _
  | flag => exact .flag true
  | moment => exact .moment Desk.midnight
  | pick allowed =>
    rw [sample]
    cases found : allowed.find? (· ≠ "") with
    | some x =>
      have filled := List.find?_some found
      exact .pick (List.mem_of_find?_eq_some found) (of_decide_eq_true filled)
    | none =>
      -- With nothing to choose the field is optional, and then an empty text fits.
      refine .noPick (Bool.eq_false_iff.mpr fun required => ?_)
      obtain ⟨x, offered, filled⟩ := choice required
      exact List.find?_eq_none.mp found x offered (decide_eq_true filled)
  | picks allowed => exact .picks (fun _ offered => offered) choice

theorem hasChoice_of_fits {kind : FieldKind} {v : FieldValue} (fits : v.Fits true kind) :
    kind.HasChoice := by
  cases fits with
  | pick offered filled => exact ⟨_, offered, filled⟩
  | noPick optional => cases optional
  | @picks allowed xs offered filled =>
    rintro rfl
    obtain ⟨x, chosen⟩ := List.exists_mem_of_ne_nil xs (filled rfl)
    cases offered x chosen
  | _ => trivial

end FieldKind

theorem TicketField.exists_takes_iff {f : TicketField} :
    (∃ v, f.Takes v) ↔ (f.required = true → f.kind.HasChoice) := by
  constructor
  · rintro ⟨v, takes⟩ required
    cases v with
    | none =>
      rw [Takes, required] at takes
      cases takes
    | some v =>
      rw [Takes, required] at takes
      exact FieldKind.hasChoice_of_fits takes
  · intro choice
    exact ⟨some f.kind.sample, FieldKind.sample_fits choice⟩

namespace TicketSchema

def sample (s : TicketSchema) : Ticket :=
  ⟨"", s.displayName, "", none, [], none, none, none, s.customFields.map fun f => f.kind.sample,
    none, none⟩

theorem accepts_sample {s : TicketSchema} (choices : ∀ id field,
    s.customFields.get? id = some field → field.required = true → field.kind.HasChoice) :
    s.Accepts s.sample := by
  intro id field declared
  have filled : s.sample.customFields.get? id = some field.kind.sample := by
    rw [sample, KeyedMap.get?_map, declared, Option.map_some]
  rw [filled]
  exact FieldKind.sample_fits (choices id field declared)

theorem exists_accepts_iff {s : TicketSchema} :
    (∃ t, s.Accepts t) ↔ ∀ id field, s.customFields.get? id = some field →
      field.required = true → field.kind.HasChoice := by
  constructor
  · rintro ⟨t, accepts⟩ id field declared
    exact TicketField.exists_takes_iff.mp ⟨_, accepts id field declared⟩
  · intro choices
    exact ⟨s.sample, accepts_sample choices⟩

end TicketSchema

namespace Desk

theorem CatalogField.hasChoice_iff {f : CatalogField} {kind : FieldKind}
    (typed : f.kind? = some kind) : kind.HasChoice ↔
      (f.fieldType = "custom_dropdown" → ∃ x ∈ f.choiceValues, x ≠ "") ∧
      (f.fieldType = "custom_multi_select_dropdown" → f.choiceValues ≠ []) := by
  revert typed
  fun_cases kind? f with
  | case1 type =>
    rintro ⟨⟩
    refine iff_of_true trivial ⟨fun other => ?_, fun other => ?_⟩
    · rw [other] at type
      exact absurd type (by decide)
    · rw [other] at type
      exact absurd type (by decide)
  | case2 _ type =>
    rintro ⟨⟩
    simp [FieldKind.HasChoice, type]
  | case3 _ _ type =>
    rintro ⟨⟩
    simp [FieldKind.HasChoice, type]
  | case4 _ _ _ type =>
    rintro ⟨⟩
    simp [FieldKind.HasChoice, type]
  | case5 _ _ _ _ type =>
    rintro ⟨⟩
    simp [FieldKind.HasChoice, type]
  | case6 _ _ _ _ _ type =>
    rintro ⟨⟩
    simp [FieldKind.HasChoice, type]
  | case7 =>
    intro typed
    cases typed

/-- The required fields of an item's schema are those that count, are the last of their name and
    are required. -/
theorem CatalogItem.schema_choices_iff (i : CatalogItem) :
    (∀ id field, i.schema.customFields.get? id = some field → field.required = true →
      field.kind.HasChoice) ↔
    ∀ before f after, i.customFields = before ++ f :: after → f.isSupported = true →
      (∀ g ∈ after, g.isSupported = true → g.name ≠ f.name) → f.required = true →
      (f.fieldType = "custom_dropdown" → ∃ x ∈ f.choiceValues, x ≠ "") ∧
      (f.fieldType = "custom_multi_select_dropdown" → f.choiceValues ≠ []) := by
  constructor
  · intro choices before f after parts supported last required
    obtain ⟨_, field, translated⟩ := f.isSupported_iff.mp supported
    obtain ⟨typed, _, same⟩ := CatalogField.ticketField?_some translated
    have declared := (i.declared_iff f.name field).mpr
      ⟨f, field?_eq_some parts supported last, translated⟩
    exact (CatalogField.hasChoice_iff typed).mp
      (choices f.name field declared (same.trans required))
  · intro choices id field declared required
    obtain ⟨f, found, translated⟩ := (i.declared_iff id field).mp declared
    obtain ⟨before, after, parts, supported, rfl, last⟩ := field?_eq_some_iff.mp found
    obtain ⟨typed, _, same⟩ := CatalogField.ticketField?_some translated
    exact (CatalogField.hasChoice_iff typed).mpr
      (choices before f after parts supported last (same.symm.trans required))

/-- Some ticket follows a schema exactly when every required single choice has a text among its
    choices that is not empty, and every required choice of several has any text at all. For an item
    of the catalog this is about the last field of each name that counts. -/
theorem forms_are_fillable_iff_choices_are_there :
    (∀ s : TicketSchema, (∃ t, Ticketing.checkTicket t s = .ok ()) ↔
      ∀ id field, s.customFields.get? id = some field → field.required = true →
        (∀ allowed, field.kind = .pick allowed → ∃ x ∈ allowed, x ≠ "") ∧
        ∀ allowed, field.kind = .picks allowed → allowed ≠ []) ∧
    ∀ i : CatalogItem, (∃ t, Ticketing.checkTicket t i.schema = .ok ()) ↔
      ∀ before f after, i.customFields = before ++ f :: after → f.isSupported = true →
        (∀ g ∈ after, g.isSupported = true → g.name ≠ f.name) → f.required = true →
        (f.fieldType = "custom_dropdown" → ∃ x ∈ f.choiceValues, x ≠ "") ∧
        (f.fieldType = "custom_multi_select_dropdown" → f.choiceValues ≠ []) := by
  have fillable : ∀ s : TicketSchema, (∃ t, Ticketing.checkTicket t s = .ok ()) ↔
      ∀ id field, s.customFields.get? id = some field → field.required = true →
        field.kind.HasChoice := by
    intro s
    rw [← TicketSchema.exists_accepts_iff]
    exact exists_congr fun t => Ticketing.checkTicket_eq_ok_iff
  refine ⟨fun s => ?_, fun i => ?_⟩
  · simp only [fillable, FieldKind.hasChoice_iff]
  · rw [fillable, i.schema_choices_iff]

def planless : CatalogItem :=
  ⟨18, "Phone", 18, [⟨"plan", "Plan", "custom_dropdown", true, [["", "None"]], false⟩], none, false,
    none⟩

theorem planless_form_is_unfillable : ¬∃ t, Ticketing.checkTicket t planless.schema = .ok () := by
  intro fillable
  have choices := (forms_are_fillable_iff_choices_are_there.2 planless).mp fillable
  obtain ⟨x, offered, filled⟩ := (choices [] _ [] rfl (by decide) nofun rfl).1 rfl
  exact filled (List.mem_singleton.mp offered)

end Desk

end IdentitySync
