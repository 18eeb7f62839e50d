import IdentitySync.Proofs.Desk.PlacedFields
import IdentitySync.Proofs.Json.Exact
import IdentitySync.Proofs.Json.OpenPart

/-!
Items of the catalog read leniently. What is no custom field, is deleted or has a type that tickets
have no values for may stand anywhere among the custom fields: the item is read all the same and its
schema has what it would have without. The schema holds the last field of each name that counts. Of
the choices of a field each list gives one option, its first scalar, which need not be its first
item.
-/
namespace IdentitySync.Desk

theorem lenient_reads (encode : α → Json) (read : Json → α) (src : Source) {d : Document}
    {v : Value} (value : d.value? = some v) :
    (lenientCodec encode read).decode src d = .ok (read v.json) := by
  simp only [lenientCodec, Document.decodeValue, value, Except.map]

theorem itemsOf_other {j : Json} (other : ∀ items, j ≠ .list items) : itemsOf j = [] := by
  cases j with
  | list items => exact absurd rfl (other items)
  | _ => rfl

/-- The second list is the first with things of one sort strewn in. -/
inductive Strewn {α : Type} (sort : α → Prop) : List α → List α → Prop where
  | nil : Strewn sort [] []
  | keep (x : α) {xs ys : List α} (rest : Strewn sort xs ys) : Strewn sort (x :: xs) (x :: ys)
  | more {y : α} (h : sort y) {xs ys : List α} (rest : Strewn sort xs ys) : Strewn sort xs (y :: ys)

namespace CatalogField

/-- What does not count among the custom fields of an item. -/
inductive Junk (v : Value) : Prop where
  | unreadable {e : DecodeError} (read : codec.ofValue v = .error e)
  | deleted {f : CatalogField} (read : codec.ofValue v = .ok f) (h : f.deleted = true)
  | unsupported {f : CatalogField} (read : codec.ofValue v = .ok f)
      (h : f.fieldType ∉ supportedTypes)

theorem list_reads (src : Source) {d : Document} {v : Value} (value : d.value? = some v) :
    listCodec.decode src d = .ok (readAll v.json) := lenient_reads _ _ src value

theorem choices_read (src : Source) {d : Document} {v : Value} (value : d.value? = some v) :
    choicesCodec.decode src d = .ok (choicesOf v.json) := lenient_reads _ _ src value

theorem readAll_list (xs : List Value) :
    readAll (Value.list xs).json = xs.filterMap fun v => (codec.ofValue v).toOption :=
  List.filterMap_map

theorem Junk.uncounted {v : Value} (junk : Junk v) :
    ((codec.ofValue v).toOption.filter isSupported) = none := by
  cases junk with
  | unreadable read =>
    rw [read]
    rfl
  | deleted read h =>
    rw [read]
    simp only [Except.toOption, Option.filter, isSupported, h, Bool.not_true, Bool.false_and,
      Bool.false_eq_true, ↓reduceIte]
  | unsupported read h =>
    rw [read]
    simp only [Except.toOption, Option.filter, isSupported, List.contains_eq_mem, h, decide_false,
      Bool.and_false, Bool.false_eq_true, ↓reduceIte]

theorem supported_strewn {xs ys : List Value} (strewn : Strewn Junk xs ys) :
    (readAll (Value.list ys).json).filter isSupported =
      (readAll (Value.list xs).json).filter isSupported := by
  simp only [readAll_list, List.filter_filterMap]
  induction strewn with
  | nil => rfl
  | keep x rest ih => simp only [List.filterMap_cons, ih]
  | more junk rest ih => simp only [List.filterMap_cons, junk.uncounted, ih]

end CatalogField

namespace CatalogItem

def customFieldsPlace : fields.Place (.defaulted "custom_fields" CatalogField.listCodec []) :=
  .there _ (.there _ (.there _ (.here _)))

/-- Whatever stands for the custom fields, the rest of the item is read in the same way. -/
theorem decode_plug {frame : Frame} (opens : frame.OpensAt customFieldsPlace) (src : Source)
    {d d' : Document} {v v' : Value} (value : d.value? = some v) (value' : d'.value? = some v') :
    codec.decode src (frame.plug d') = (codec.decode src (frame.plug d)).map
      fun i => { i with customFields := CatalogField.readAll v'.json } :=
  Codec.record_plug (fun _ => rfl) customFieldsPlace opens (CatalogField.list_reads src value)
    (CatalogField.list_reads src value')

theorem schema_eq_of_supported {i i' : CatalogItem} (displayId : i'.displayId = i.displayId)
    (name : i'.name = i.name) (counted : i'.customFields.filter CatalogField.isSupported =
      i.customFields.filter CatalogField.isSupported) : i'.schema = i.schema := by
  rw [schema, schema, ticketFields_eq, ticketFields_eq, displayId, name, counted]

theorem field?_eq_some_iff {i : CatalogItem} {name : String} {f : CatalogField} :
    i.field? name = some f ↔ ∃ before after, i.customFields = before ++ f :: after ∧
      f.isSupported = true ∧ f.name = name ∧
      ∀ g ∈ after, g.isSupported = true → g.name ≠ name := by
  rw [field?, ← List.filter_reverse, List.find?_filter, List.find?_eq_some_iff_append]
  constructor
  · rintro ⟨own, after, before, parts, others⟩
    obtain ⟨supported, named⟩ := of_decide_eq_true own
    refine ⟨before.reverse, after.reverse, by simpa using congrArg List.reverse parts, supported,
      of_decide_eq_true named, ?_⟩
    intro g hg supported same
    have other := others g (List.mem_reverse.mp hg)
    simp [supported, same] at other
  · rintro ⟨before, after, parts, supported, named, last⟩
    refine ⟨by simp [supported, named], after.reverse, before.reverse, by simp [parts], ?_⟩
    intro g hg
    have other := last g (List.mem_reverse.mp hg)
    by_cases counts : g.isSupported = true
    · simp [counts, other counts]
    · simp [counts]

theorem field?_eq_some {i : CatalogItem} {before after : List CatalogField} {f : CatalogField}
    (parts : i.customFields = before ++ f :: after) (supported : f.isSupported = true)
    (last : ∀ g ∈ after, g.isSupported = true → g.name ≠ f.name) : i.field? f.name = some f :=
  field?_eq_some_iff.mpr ⟨before, after, parts, supported, rfl, last⟩

theorem schema_field_id {i : CatalogItem} {key : String} {field : TicketField}
    (declared : i.schema.customFields.get? key = some field) : field.id = key := by
  obtain ⟨f, found, translated⟩ := (i.declared_iff key field).mp declared
  obtain ⟨_, named, _⟩ := CatalogField.ticketField?_some translated
  obtain ⟨_, _, _, _, own, _⟩ := field?_eq_some_iff.mp found
  rw [named, own]

theorem mem_schema_keys_iff (i : CatalogItem) (key : String) :
    key ∈ i.schema.customFields.keys ↔
      ∃ f ∈ i.customFields, f.isSupported = true ∧ f.name = key := by
  rw [KeyedMap.mem_keys_iff, ← KeyedMap.contains_iff, declares_iff, field?_isSome_iff]

theorem decode_strewn {frame : Frame} (opens : frame.OpensAt customFieldsPlace) {src : Source}
    {d d' : Document} {xs ys : List Value} (value : d.value? = some (.list xs))
    (value' : d'.value? = some (.list ys)) (strewn : Strewn CatalogField.Junk xs ys)
    {i : CatalogItem} (decoded : codec.decode src (frame.plug d) = .ok i) :
    ∃ i', codec.decode src (frame.plug d') = .ok i' ∧ i'.schema = i.schema := by
  -- Putting in what is there already shows what the item has.
  have own := decode_plug opens src value value
  rw [decoded] at own
  have listed : i.customFields = CatalogField.readAll (Value.list xs).json :=
    congrArg customFields (Except.ok.inj own)
  refine ⟨{ i with customFields := CatalogField.readAll (Value.list ys).json }, ?_, ?_⟩
  · rw [decode_plug opens src value value', decoded]
    rfl
  · refine schema_eq_of_supported rfl rfl ?_
    rw [listed]
    exact CatalogField.supported_strewn strewn

theorem decode_unlisted {frame : Frame} (opens : frame.OpensAt customFieldsPlace) (src : Source)
    {d : Document} {v : Value} (value : d.value? = some v) (other : ∀ items, v.json ≠ .list items) :
    codec.decode src (frame.plug d) = codec.decode src (frame.plug (.list [] true)) := by
  have empty : (Document.list [] true).value? = some (.list []) := rfl
  have none : CatalogField.readAll v.json = CatalogField.readAll (Value.list []).json := by
    rw [CatalogField.readAll, itemsOf_other other]
    rfl
  rw [decode_plug opens src empty value, none, ← decode_plug opens src empty empty]

/-- An item is decoded with junk strewn among its custom fields when it is decoded without, and has
    the same schema. In every schema the fields stand under their ids, these are the names of the
    fields that count, and of those with one name the last is translated. Custom fields that are no
    list are none. -/
theorem junk_fields_leave_schema :
    (∀ (src : Source) (frame : Frame) (d d' : Document) (xs ys : List Value) (i : CatalogItem),
      frame.OpensAt customFieldsPlace → d.value? = some (.list xs) → d'.value? = some (.list ys) →
      Strewn CatalogField.Junk xs ys → codec.decode src (frame.plug d) = .ok i →
      ∃ i', codec.decode src (frame.plug d') = .ok i' ∧ i'.schema = i.schema) ∧
    (∀ i : CatalogItem,
      (∀ key field, i.schema.customFields.get? key = some field → field.id = key) ∧
      (∀ key, key ∈ i.schema.customFields.keys ↔
        ∃ f ∈ i.customFields, f.isSupported = true ∧ f.name = key) ∧
      ∀ before f after, i.customFields = before ++ f :: after → f.isSupported = true →
        (∀ g ∈ after, g.isSupported = true → g.name ≠ f.name) →
        i.schema.customFields.get? f.name = f.ticketField?) ∧
    ∀ (src : Source) (frame : Frame) (d : Document) (v : Value), frame.OpensAt customFieldsPlace →
      d.value? = some v → (∀ items, v.json ≠ .list items) →
      codec.decode src (frame.plug d) = codec.decode src (frame.plug (.list [] true)) := by
  refine ⟨?_, ?_, ?_⟩
  · intro src frame d d' xs ys i opens value value' strewn decoded
    exact decode_strewn opens value value' strewn decoded
  · intro i
    refine ⟨fun key field => schema_field_id, i.mem_schema_keys_iff, ?_⟩
    intro before f after parts supported last
    rw [schema_field, field?_eq_some parts supported last]
    rfl
  · intro src frame d v opens value other
    exact decode_unlisted opens src value other

def laptopFrame : Frame :=
  .members [(some "id", .number (.natural 7)), (some "name", .string "Laptop")] "custom_fields"
    [(some "display_id", .number (.natural 17))] true

def reasonField (type : String) (deleted : Bool) : Value :=
  .record (.ofList [("name", .string "reason"), ("field_type", .string type),
    ("deleted", .bool deleted)])

theorem reason_counts_among_junk :
    let xs := [reasonField "custom_text" false]
    let ys := [.string "reason", reasonField "custom_text" false, reasonField "custom_text" true,
      reasonField "custom_decimal" false]
    ∃ i i', codec.decode .text (laptopFrame.plug (Value.list xs).json.document) = .ok i ∧
      codec.decode .text (laptopFrame.plug (Value.list ys).json.document) = .ok i' ∧
      i'.customFields.length = 3 ∧ i'.schema = i.schema ∧
      i.schema.customFields.keys = ["reason"] := by
  intro xs ys
  have opens : laptopFrame.OpensAt customFieldsPlace :=
    ⟨by decide, by decide, by decide, rfl⟩
  have unread : Except.isOk (CatalogField.codec.ofValue (.string "reason")) = false := by
    decide +kernel
  have deleted : CatalogField.codec.ofValue (reasonField "custom_text" true) =
      .ok ⟨"reason", "", "custom_text", false, [], true⟩ := by decide +kernel
  have unsupported : CatalogField.codec.ofValue (reasonField "custom_decimal" false) =
      .ok ⟨"reason", "", "custom_decimal", false, [], false⟩ := by decide +kernel
  have decoded : codec.decode .text (laptopFrame.plug (Value.list xs).json.document) =
      .ok ⟨7, "Laptop", 17, [⟨"reason", "", "custom_text", false, [], false⟩], none, false,
        none⟩ := by
    decide +kernel
  have garbage : CatalogField.Junk (.string "reason") := by
    cases read : CatalogField.codec.ofValue (.string "reason") with
    | error e => exact .unreadable read
    | ok f =>
      rw [read] at unread
      cases unread
  have strewn : Strewn CatalogField.Junk xs ys :=
    .more garbage <| .keep _ <| .more (.deleted deleted rfl) <|
      .more (.unsupported unsupported (by decide)) .nil
  obtain ⟨i', decoded', same⟩ := junk_fields_leave_schema.1 .text laptopFrame _ _ xs ys _ opens
    (Document.value?_of_shown (Json.shownBy_document _))
    (Document.value?_of_shown (Json.shownBy_document _)) strewn decoded
  have listed : (codec.decode .text (laptopFrame.plug (Value.list ys).json.document)).toOption.map
      (fun i => i.customFields.length) = some 3 := by decide +kernel
  rw [decoded'] at listed
  exact ⟨_, i', decoded, decoded', Option.some.inj listed, same, by decide +kernel⟩

end CatalogItem

namespace CatalogField

def choicesPlace : fields.Place (.defaulted "choices" choicesCodec []) :=
  .there _ (.there _ (.there _ (.there _ (.here _))))

def firstScalar? : Json → Option String
  | .list items => items.findSome? scalarText?
  | _ => none

def leadingScalar? : Json → Option String
  | .list (first :: _) => scalarText? first
  | _ => none

theorem firstScalar?_of_leading {entry : Json} {text : String}
    (leads : leadingScalar? entry = some text) : firstScalar? entry = some text := by
  cases entry with
  | list items =>
    cases items with
    | nil => cases leads
    | cons first rest =>
      have own : scalarText? first = some text := leads
      rw [firstScalar?, List.findSome?_cons, own]
  | _ => cases leads

theorem options_of_choices (j : Json) :
    (choicesOf j).filterMap List.head? = (itemsOf j).filterMap firstScalar? := by
  rw [choicesOf, List.filterMap_filterMap]
  congr 1
  funext entry
  cases entry with
  | list items =>
    simp only [firstScalar?, ← List.head?_filterMap]
    cases items.filterMap scalarText? <;> rfl
  | _ => rfl

theorem leading_sublist (entries : List Json) :
    (entries.filterMap leadingScalar?).Sublist (entries.filterMap firstScalar?) := by
  induction entries with
  | nil => exact .slnil
  | cons entry rest ih =>
    cases leads : leadingScalar? entry with
    | some text =>
      rw [List.filterMap_cons_some leads, List.filterMap_cons_some (firstScalar?_of_leading leads)]
      exact ih.cons_cons text
    | none =>
      rw [List.filterMap_cons_none leads]
      cases first : firstScalar? entry with
      | some text =>
        rw [List.filterMap_cons_some first]
        exact ih.cons text
      | none =>
        rw [List.filterMap_cons_none first]
        exact ih

theorem first_eq_leading_iff (entries : List Json) :
    entries.filterMap firstScalar? = entries.filterMap leadingScalar? ↔
      ∀ entry ∈ entries, leadingScalar? entry = none → firstScalar? entry = none := by
  induction entries with
  | nil => exact iff_of_true rfl nofun
  | cons entry rest ih =>
    rw [List.forall_mem_cons]
    cases leads : leadingScalar? entry with
    | some text =>
      rw [List.filterMap_cons_some leads, List.filterMap_cons_some (firstScalar?_of_leading leads),
        List.cons.injEq, ih]
      exact ⟨fun h => ⟨nofun, h.2⟩, fun h => ⟨rfl, h.2⟩⟩
    | none =>
      rw [List.filterMap_cons_none leads]
      cases first : firstScalar? entry with
      | none =>
        rw [List.filterMap_cons_none first, ih]
        exact ⟨fun h => ⟨fun _ => rfl, h⟩, fun h => h.2⟩
      | some text =>
        rw [List.filterMap_cons_some first]
        -- This list gives an option that no leading scalar makes up for: there are too few of them.
        refine iff_of_false ?_ fun h => nomatch h.1 rfl
        intro same
        have fewer := (leading_sublist rest).length_le
        rw [← same, List.length_cons] at fewer
        omega

theorem decode_plug {frame : Frame} (opens : frame.OpensAt choicesPlace) (src : Source)
    {d d' : Document} {v v' : Value} (value : d.value? = some v) (value' : d'.value? = some v') :
    codec.decode src (frame.plug d') = (codec.decode src (frame.plug d)).map
      fun f => { f with choices := choicesOf v'.json } :=
  Codec.record_plug (fun _ => rfl) choicesPlace opens (choices_read src value)
    (choices_read src value')

/-- Whatever value the choices have, a custom field is decoded as it is with none. Its options are
    the first scalars of the lists among the choices, in order. These are the first items of the
    lists if and only if no list has a scalar behind a first item that is none. -/
theorem options_are_first_scalars (src : Source) {frame : Frame}
    (opens : frame.OpensAt choicesPlace) {d : Document} {v : Value} (value : d.value? = some v) :
    codec.decode src (frame.plug d) = (codec.decode src (frame.plug (.list [] true))).map
      (fun f => { f with choices := choicesOf v.json }) ∧
    ∀ f, codec.decode src (frame.plug d) = .ok f →
      f.choiceValues = (itemsOf v.json).filterMap firstScalar? ∧
      (f.choiceValues = (itemsOf v.json).filterMap leadingScalar? ↔
        ∀ entry ∈ itemsOf v.json, leadingScalar? entry = none → firstScalar? entry = none) ∧
      ((∀ items, v.json ≠ .list items) → f.choices = []) := by
  refine ⟨decode_plug opens src rfl value, ?_⟩
  intro f decoded
  have own := decode_plug opens src value value
  rw [decoded] at own
  have chosen : f.choices = choicesOf v.json := congrArg choices (Except.ok.inj own)
  have options : f.choiceValues = (itemsOf v.json).filterMap firstScalar? := by
    rw [choiceValues, chosen, options_of_choices]
  refine ⟨options, ?_, ?_⟩
  · rw [options]
    exact first_eq_leading_iff _
  · intro other
    rw [chosen, choicesOf, itemsOf_other other]
    rfl

def floorFrame : Frame :=
  .items [.string "floor", .string "Floor", .string "custom_dropdown", .bool true] [] true

def floorChoices : Value :=
  .list [.list [.number (.natural 1), .record (.ofList [("sub", .null)])], .list [.bool true],
    .list [.record (.ofList [("x", .number (.natural 1))])], .string "loose",
    .list [.string "Top", .string "Top floor"]]

theorem floors_offered_by_first_items :
    ∃ f, codec.decode .value (floorFrame.plug floorChoices.json.document) = .ok f ∧
      f.choiceValues = (itemsOf floorChoices.json).filterMap leadingScalar? ∧
      f.choiceValues = ["1", "true", "Top"] := by
  have value : floorChoices.json.document.value? = some floorChoices :=
    Document.value?_of_shown (Json.shownBy_document _)
  have opens : floorFrame.OpensAt choicesPlace := rfl
  have decoded : codec.decode .value (floorFrame.plug floorChoices.json.document) =
      .ok ⟨"floor", "Floor", "custom_dropdown", true, [["1"], ["true"], ["Top", "Top floor"]],
        false⟩ := by
    decide +kernel
  have clear : ∀ entry ∈ itemsOf floorChoices.json,
      leadingScalar? entry = none → firstScalar? entry = none := by
    decide +kernel
  obtain ⟨_, options⟩ := options_are_first_scalars .value opens value
  exact ⟨_, decoded, (options _ decoded).2.1.mpr clear, by decide +kernel⟩

def unvaluedFloor : Json :=
  .record [("choices", .list [.list [.null, .string "Ground floor"]]),
    ("field_type", .string "custom_dropdown"), ("name", .string "floor")]

/-- The label of a choice is offered, and taken, in the place of a value that is no scalar. -/
theorem label_offered_in_place_of_value :
    ∃ f, codec.decode .value unvaluedFloor.document = .ok f ∧ f.choiceValues = ["Ground floor"] ∧
      [Json.list [.null, .string "Ground floor"]].filterMap leadingScalar? = [] ∧
      ∃ field, f.ticketField? = some field ∧ field.Takes (some (.pick "Ground floor")) := by
  have decoded : codec.decode .value unvaluedFloor.document =
      .ok ⟨"floor", "", "custom_dropdown", false, [["Ground floor"]], false⟩ := by
    decide +kernel
  refine ⟨_, decoded, by decide +kernel, by decide +kernel, ?_⟩
  exact ⟨_, rfl, .pick (by decide) (by decide)⟩

end CatalogField

end IdentitySync.Desk
