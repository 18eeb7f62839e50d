import IdentitySync.Proofs.Desk.TicketCreation
import IdentitySync.Proofs.Ticket.Check

/-!
What a request for an item puts into the item's form. The form is translated to a schema, the ticket
is checked against it, and the values of undeclared fields are left out. Together these steps let
through only what the form takes: every field that counts and is required has a value, and every
value is one that its field can have.
-/
namespace IdentitySync.Desk
open Http Exchange

namespace CatalogField

def supportedTypes : List String :=
  ["custom_text", "custom_paragraph", "custom_url", "custom_lookup_bigint", "custom_date",
    "custom_checkbox", "custom_dropdown", "custom_multi_select_dropdown", "custom_multi_lookup"]

/-- What the form takes for a field, by its type. -/
inductive Accepts (f : CatalogField) : Json → Prop where
  | text {s : String}
      (type : f.fieldType ∈
        ["custom_text", "custom_paragraph", "custom_url", "custom_lookup_bigint"])
      (filled : f.required = true → s ≠ "") : Accepts f (.string s)
  | date (s : String) (type : f.fieldType = "custom_date") : Accepts f (.string s)
  | checkbox (b : Bool) (type : f.fieldType = "custom_checkbox") : Accepts f (.bool b)
  | choice {s : String} (type : f.fieldType = "custom_dropdown") (offered : s ∈ f.choiceValues)
      (filled : f.required = true → s ≠ "") : Accepts f (.string s)
  | noChoice (type : f.fieldType = "custom_dropdown") (optional : f.required = false) :
      Accepts f (.string "")
  | choices {xs : List String} (type : f.fieldType = "custom_multi_select_dropdown")
      (offered : ∀ x ∈ xs, x ∈ f.choiceValues) (filled : f.required = true → xs ≠ []) :
      Accepts f (.strings xs)
  | texts {xs : List String} (type : f.fieldType = "custom_multi_lookup")
      (filled : f.required = true → xs ≠ []) : Accepts f (.strings xs)

theorem kind?_isSome_iff (f : CatalogField) :
    f.kind?.isSome = true ↔ f.fieldType ∈ supportedTypes := by
  have parts : supportedTypes = textTypes ++ ["custom_date", "custom_checkbox", "custom_dropdown",
    "custom_multi_select_dropdown", "custom_multi_lookup"] := rfl
  rw [parts]
  fun_cases kind? f with
  | case1 type => simp [type]
  | case2 _ type => simp [type]
  | case3 _ _ type => simp [type]
  | case4 _ _ _ type => simp [type]
  | case5 _ _ _ _ type => simp [type]
  | case6 _ _ _ _ _ type => simp [type]
  | case7 text date checkbox choice choices texts =>
    simp [text, date, checkbox, choice, choices, texts]

theorem accepts_of_fits {f : CatalogField} {kind : FieldKind} {v : FieldValue}
    (typed : f.kind? = some kind) (fits : v.Fits f.required kind) : f.Accepts v.plain := by
  revert typed
  fun_cases kind? f with
  | case1 type =>
    rintro ⟨⟩
    cases fits with
    | text filled => exact .text type filled
  | case2 _ type =>
    rintro ⟨⟩
    cases fits with
    | moment t => exact .date _ type
  | case3 _ _ type =>
    rintro ⟨⟩
    cases fits with
    | flag b => exact .checkbox b type
  | case4 _ _ _ type =>
    rintro ⟨⟩
    cases fits with
    | pick offered filled => exact .choice type offered fun _ => filled
    | noPick optional => exact .noChoice type optional
  | case5 _ _ _ _ type =>
    rintro ⟨⟩
    cases fits with
    | picks offered filled => exact .choices type offered filled
  | case6 _ _ _ _ _ type =>
    rintro ⟨⟩
    cases fits with
    | texts filled => exact .texts type filled
  | case7 => nofun

def isSupported (f : CatalogField) : Bool := !f.deleted && supportedTypes.contains f.fieldType

theorem ticketField?_some {f : CatalogField} {field : TicketField}
    (translated : f.ticketField? = some field) :
    f.kind? = some field.kind ∧ field.id = f.name ∧ field.required = f.required := by
  obtain ⟨kind, typed, rfl⟩ := Option.map_eq_some_iff.mp translated
  exact ⟨typed, rfl, rfl⟩

theorem isSupported_iff (f : CatalogField) :
    f.isSupported = true ↔ f.deleted = false ∧ ∃ field, f.ticketField? = some field := by
  rw [isSupported, Bool.and_eq_true, Bool.not_eq_true', List.contains_iff_mem, ← kind?_isSome_iff,
    ← Option.isSome_iff_exists, ticketField?, Option.isSome_map]

theorem filterMap_ticketField? (fs : List CatalogField) :
    (fs.filter fun f => !f.deleted).filterMap ticketField? =
      (fs.filter isSupported).filterMap ticketField? := by
  rw [List.filterMap_filter, List.filterMap_filter]
  congr 1
  funext f
  by_cases supported : f.isSupported = true
  · obtain ⟨kept, _⟩ := f.isSupported_iff.mp supported
    rw [if_pos supported, kept]
    rfl
  · rw [if_neg supported]
    cases deleted : f.deleted with
    | true => rfl
    | false =>
      rw [Bool.not_false, if_pos rfl, Option.eq_none_iff_forall_ne_some]
      intro field translated
      exact supported (f.isSupported_iff.mpr ⟨deleted, field, translated⟩)

theorem lookup_translated {fs : List CatalogField} (supported : ∀ f ∈ fs, f.isSupported = true)
    (name : String) :
    ((fs.filterMap ticketField?).map fun f => (f.id, f)).lookup name =
      (fs.find? fun f => f.name = name).bind ticketField? := by
  induction fs with
  | nil => rfl
  | cons f fs ih =>
    obtain ⟨_, field, translated⟩ := f.isSupported_iff.mp (supported f List.mem_cons_self)
    obtain ⟨_, named, _⟩ := ticketField?_some translated
    rw [List.filterMap_cons_some translated, List.map_cons, KeyedMap.lookup_cons, named]
    by_cases own : name = f.name
    · rw [if_pos own, List.find?_cons_of_pos (by simp [own]), Option.bind_some, translated]
    · rw [if_neg own, List.find?_cons_of_neg (by simp [Ne.symm own]),
        ih fun g hg => supported g (List.mem_cons_of_mem _ hg)]

end CatalogField

namespace CatalogItem

def field? (i : CatalogItem) (name : String) : Option CatalogField :=
  (i.customFields.filter CatalogField.isSupported).reverse.find? fun f => f.name = name

theorem field?_isSome_iff (i : CatalogItem) (name : String) :
    (i.field? name).isSome = true ↔
      ∃ f ∈ i.customFields, f.isSupported = true ∧ f.name = name := by
  rw [field?, List.find?_isSome]
  simp only [List.mem_reverse, List.mem_filter, decide_eq_true_eq, and_assoc]

theorem field?_supported {i : CatalogItem} {name : String} {f : CatalogField}
    (found : i.field? name = some f) : f.isSupported = true := by
  have own := List.mem_reverse.mp (List.mem_of_find?_eq_some found)
  exact (List.mem_filter.mp own).2

theorem ticketFields_eq (i : CatalogItem) :
    i.ticketFields = (i.customFields.filter CatalogField.isSupported).filterMap
      CatalogField.ticketField? :=
  CatalogField.filterMap_ticketField? i.customFields

theorem schema_field (i : CatalogItem) (name : String) :
    i.schema.customFields.get? name = (i.field? name).bind CatalogField.ticketField? := by
  rw [schema, KeyedMap.get?_ofList, ticketFields_eq, ← List.map_reverse, ← List.filterMap_reverse,
    CatalogField.lookup_translated, field?]
  intro f own
  exact (List.mem_filter.mp (List.mem_reverse.mp own)).2

theorem declared_iff (i : CatalogItem) (name : String) (field : TicketField) :
    i.schema.customFields.get? name = some field ↔
      ∃ f, i.field? name = some f ∧ f.ticketField? = some field := by
  rw [schema_field, Option.bind_eq_some_iff]

theorem declares_iff (i : CatalogItem) (name : String) :
    i.schema.customFields.contains name = true ↔ (i.field? name).isSome = true := by
  rw [KeyedMap.contains, Option.isSome_iff_exists, Option.isSome_iff_exists]
  constructor
  · rintro ⟨field, declared⟩
    obtain ⟨f, found, _⟩ := (i.declared_iff name field).mp declared
    exact ⟨f, found⟩
  · rintro ⟨f, found⟩
    obtain ⟨_, field, translated⟩ := f.isSupported_iff.mp (field?_supported found)
    exact ⟨field, (i.declared_iff name field).mpr ⟨f, found, translated⟩⟩

end CatalogItem

theorem mem_placedFields (t : Ticket) (s : TicketSchema) (id : String) (value : Json) :
    (id, value) ∈ placedFields t s ↔
      s.customFields.contains id = true ∧
        ∃ v, t.customFields.get? id = some v ∧ value = v.plain := by
  rw [placedFields, List.mem_map]
  constructor
  · rintro ⟨⟨id, v⟩, own, ⟨⟩⟩
    obtain ⟨set, declared⟩ := List.mem_filter.mp own
    exact ⟨declared, v, (t.customFields.mem_entries_iff id v).mp set, rfl⟩
  · rintro ⟨declared, v, set, rfl⟩
    have own := (t.customFields.mem_entries_iff id v).mpr set
    exact ⟨(id, v), List.mem_filter.mpr ⟨own, declared⟩, rfl⟩

theorem placedFields_nodup (t : Ticket) (s : TicketSchema) :
    ((placedFields t s).map Prod.fst).Nodup := by
  rw [placedFields, List.map_map]
  exact KeyedMap.keys_nodup _

/-- The entries fill in the form of the item: one for each field that counts and that the ticket
    sets, nothing else, each accepted by its field, and none missing that is required. -/
structure FillsForm (item : CatalogItem) (t : Ticket) (entries : List (String × Json)) : Prop where
  distinct : (entries.map Prod.fst).Nodup
  exactly : ∀ id, id ∈ entries.map Prod.fst ↔ (t.customFields.get? id).isSome = true ∧
    ∃ f ∈ item.customFields, f.isSupported = true ∧ f.name = id
  fitting : ∀ id value, (id, value) ∈ entries →
    ∃ f, item.field? id = some f ∧ f.Accepts value ∧
      ∃ v, t.customFields.get? id = some v ∧ value = v.plain
  complete : ∀ id f, item.field? id = some f → f.required = true → id ∈ entries.map Prod.fst

theorem mem_placed_ids (item : CatalogItem) (t : Ticket) (id : String) :
    id ∈ (placedFields t item.schema).map Prod.fst ↔
      (t.customFields.get? id).isSome = true ∧ (item.field? id).isSome = true := by
  rw [List.mem_map, ← item.declares_iff, Option.isSome_iff_exists]
  constructor
  · rintro ⟨⟨id, value⟩, own, rfl⟩
    obtain ⟨declared, v, set, _⟩ := (mem_placedFields t item.schema id value).mp own
    exact ⟨⟨v, set⟩, declared⟩
  · rintro ⟨⟨v, set⟩, declared⟩
    exact ⟨(id, v.plain), (mem_placedFields t _ id _).mpr ⟨declared, v, set, rfl⟩, rfl⟩

theorem placedFields_fill {item : CatalogItem} {t : Ticket}
    (sound : item.schema.fault? t = none) : FillsForm item t (placedFields t item.schema) := by
  have accepts := TicketSchema.fault?_eq_none_iff.mp sound
  refine ⟨placedFields_nodup t item.schema, fun id => ?_, fun id value own => ?_,
    fun id f found required => ?_⟩
  · rw [mem_placed_ids, CatalogItem.field?_isSome_iff]
  · obtain ⟨declares, v, set, rfl⟩ := (mem_placedFields t item.schema id value).mp own
    obtain ⟨field, declared⟩ := Option.isSome_iff_exists.mp declares
    obtain ⟨f, found, translated⟩ := (item.declared_iff id field).mp declared
    obtain ⟨typed, _, required⟩ := CatalogField.ticketField?_some translated
    have fits := accepts id field declared
    rw [set, TicketField.Takes, required] at fits
    exact ⟨f, found, CatalogField.accepts_of_fits typed fits, v, set, rfl⟩
  · obtain ⟨_, field, translated⟩ := f.isSupported_iff.mp (CatalogItem.field?_supported found)
    have declared := (item.declared_iff id field).mpr ⟨f, found, translated⟩
    obtain ⟨_, _, same⟩ := CatalogField.ticketField?_some translated
    have takes := accepts id field declared
    cases set : t.customFields.get? id with
    | none =>
      rw [set, TicketField.Takes, same, required] at takes
      cases takes
    | some v => exact (mem_placed_ids item t id).mpr ⟨by rw [set]; rfl, by rw [found]; rfl⟩

namespace Ticketing

/-- A write of the creation that posts is the request for the item, of a ticket without fault. -/
def PostsPlacement (t : Ticket) (s : TicketSchema) (q : Request) : Prop :=
  q.method = .post → s.fault? t = none ∧
    ∃ requestedFor email, q.body = some (placementBody requestedFor email t s)

theorem create_posts (c : Client) (t : Ticket) (s : TicketSchema) :
    (create c t s).AsksOnly (PostsPlacement t s) := by
  have reading : ∀ q : Request, q.IsGet → PostsPlacement t s q := by
    intro q get post
    rw [get] at post
    cases post
  rcases create_cases c t s with ⟨displayId, requestedFor, ready, parts⟩ | ⟨_, f, refused, _⟩
  · rw [parts]
    refine ((filedBy_reads c t).mono reading).bind fun filed => ?_
    refine AsksOnly.bind (asksOnly_op ?_) fun created => ?_
    · rw [Client.placeRequest, Client.reply_eq]
      exact Client.asking_asksOnly (fun _ => ⟨ready.fits, requestedFor, filed.1, rfl⟩) _ _
    · refine AsksOnly.follow ?_ (fun _ => .fail _) fun _ => .done _
      rw [Client.updateTicket, Client.reply_eq]
      exact Client.asking_asksOnly nofun _ _
  · rw [refused]
    exact .fail f

theorem placementBody_fields (requestedFor : Option String) (email : String) (t : Ticket)
    (s : TicketSchema) :
    memberOf? "custom_fields" (placementBody requestedFor email t s) =
      some (.record (placedFields t s)) := by
  cases requestedFor <;> rfl

end Ticketing

/-- Whatever is answered, the form of a request for an item is filled in as the item asks. -/
theorem placed_fields_fit_item {σ : Type} (c : Client) (item : CatalogItem) (t : Ticket)
    (server : σ → Request → Answer × σ) (start : σ) (x : Request × Answer)
    (sent : x ∈ (Ticketing.create c t item.schema).log server start)
    (placing : x.1.method = .post) :
    ∃ entries, x.1.body.bind (memberOf? "custom_fields") = some (.record entries) ∧
      FillsForm item t entries := by
  have posts := Ticketing.create_posts c t item.schema
  obtain ⟨sound, requestedFor, email, body⟩ :=
    posts.log_all (ends_of_run server _ start) x sent placing
  refine ⟨placedFields t item.schema, ?_, placedFields_fill sound⟩
  rw [body, Option.bind_some, Ticketing.placementBody_fields]

def system : CatalogField :=
  ⟨"os", "System", "custom_dropdown", true, [["linux", "Linux"], ["mac", "Mac"]], false⟩

def laptopItem : CatalogItem :=
  ⟨17, "Laptop", 17, [⟨"color", "", "custom_text", true, [], true⟩, system], none,
    false, none⟩

def laptopChosen : Ticket :=
  { laptopWanted with customFields := .ofList [("color", .text "grey"), ("os", .pick "linux")] }

theorem laptop_system_placed :
    let log := (Ticketing.create acme laptopChosen laptopItem.schema).log
      (constantServer overloaded) ()
    ∃ x ∈ log, x.1.method = .post ∧ ∃ entries,
      x.1.body.bind (memberOf? "custom_fields") = some (.record entries) ∧
        "os" ∈ entries.map Prod.fst ∧ "color" ∉ entries.map Prod.fst := by
  intro log
  have asked : log.map (fun x => x.1.method) = [.post] := by decide +kernel
  have post : Method.post ∈ log.map fun x => x.1.method := by
    rw [asked]
    exact List.mem_cons_self
  obtain ⟨x, sent, placing⟩ := List.mem_map.mp post
  obtain ⟨entries, body, fills⟩ := placed_fields_fit_item acme laptopItem laptopChosen
    (constantServer overloaded) () x sent placing
  refine ⟨x, sent, placing, entries, body, ?_, fun grey => ?_⟩
  · exact fills.complete "os" system (by decide) rfl
  · have counted := (laptopItem.field?_isSome_iff "color").mpr ((fills.exactly "color").mp grey).2
    revert counted
    decide +kernel

end IdentitySync.Desk
