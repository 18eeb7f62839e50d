import IdentitySync.Json.Variant

/-!
Items of the service catalog with their custom fields, and the tickets of the service desk. Custom
fields and choices are read leniently: what cannot be read is left out.
-/
namespace IdentitySync.Desk
open Time

def itemsOf : Json → List Json
  | .list items => items
  | _ => []

def scalarText? : Json → Option String
  | .string s => some s
  | .number n => some n.text
  | .bool b => some (Text.shownBool b)
  | _ => none

/-- The scalars of the lists in a list, without those that have none. -/
def choicesOf (j : Json) : List (List String) :=
  (itemsOf j).filterMap fun
    | .list pair =>
      let texts := pair.filterMap scalarText?
      if texts.isEmpty then none else some texts
    | _ => none

def lenientCodec (encode : α → Json) (read : Json → α) : Codec α :=
  ⟨encode, fun _ d => (d.decodeValue).map fun v => read v.json⟩

structure CatalogField where
  name : String
  label : String
  fieldType : String
  required : Bool
  choices : List (List String)
  deleted : Bool
deriving DecidableEq, Repr

namespace CatalogField

def choicesCodec : Codec (List (List String)) :=
  lenientCodec (fun xs => .list (xs.map .strings)) choicesOf

def fields := Fields.cons (.required "name" .string) <|
  .cons (.defaulted "label" .string "") <|
  .cons (.defaulted "field_type" .string "") <|
  .cons (.defaulted "required" .bool false) <|
  .cons (.defaulted "choices" choicesCodec []) <|
  .cons (.defaulted "deleted" .bool false) .nil

def view (f : CatalogField) :=
  (f.name, f.label, f.fieldType, f.required, f.choices, f.deleted, ())

def codec : Codec CatalogField :=
  .record "struct CustomField" fields view
    fun (name, label, fieldType, required, choices, deleted, ()) =>
      ⟨name, label, fieldType, required, choices, deleted⟩

/-- The first of each pair is the value that is submitted. -/
def choiceValues (f : CatalogField) : List String := f.choices.filterMap List.head?

def readAll (j : Json) : List CatalogField :=
  (itemsOf j).filterMap fun item => (codec.decode .value item.document).toOption

def listCodec : Codec (List CatalogField) := lenientCodec (Codec.list codec).encode readAll

end CatalogField

def draft : UInt8 := 1

structure CatalogItem where
  id : UInt64
  name : String
  displayId : UInt64
  customFields : List CatalogField
  categoryId : Option UInt64
  deleted : Bool
  visibility : Option UInt8
deriving DecidableEq, Repr

namespace CatalogItem

def fields := Fields.cons (.required "id" .word64) <|
  .cons (.defaulted "name" .string "") <|
  .cons (.required "display_id" .word64) <|
  .cons (.defaulted "custom_fields" CatalogField.listCodec []) <|
  .cons (.nullable "category_id" .word64) <|
  .cons (.defaulted "deleted" .bool false) <|
  .cons (.nullable "visibility" .word8) .nil

def view (i : CatalogItem) :=
  (i.id, i.name, i.displayId, i.customFields, i.categoryId, i.deleted, i.visibility, ())

def codec : Codec CatalogItem :=
  .record "struct ServiceItem" fields view
    fun (id, name, displayId, customFields, categoryId, deleted, visibility, ()) =>
      ⟨id, name, displayId, customFields, categoryId, deleted, visibility⟩

def isDraft (i : CatalogItem) : Bool := i.visibility = some draft

def isOffered (i : CatalogItem) : Bool := !i.deleted && !i.isDraft

end CatalogItem

structure DeskTicket where
  id : UInt64
  subject : Option String
  description : Option String
  descriptionText : Option String
  status : Option UInt32
  tags : List String
  createdAt : Option Timestamp
  updatedAt : Option Timestamp
deriving DecidableEq

namespace DeskTicket

def fields := Fields.cons (.required "id" .word64) <|
  .cons (.nullable "subject" .string) <|
  .cons (.nullable "description" .string) <|
  .cons (.nullable "description_text" .string) <|
  .cons (.nullable "status" .word32) <|
  .cons (.defaulted "tags" (.orDefault (.list .string) []) []) <|
  .cons (.nullable "created_at" .timestamp) <|
  .cons (.nullable "updated_at" .timestamp) .nil

def view (t : DeskTicket) :=
  (t.id, t.subject, t.description, t.descriptionText, t.status, t.tags, t.createdAt, t.updatedAt,
    ())

def codec : Codec DeskTicket :=
  .record "struct TicketDetails" fields view
    fun (id, subject, description, descriptionText, status, tags, createdAt, updatedAt, ()) =>
      ⟨id, subject, description, descriptionText, status, tags, createdAt, updatedAt⟩

end DeskTicket

end IdentitySync.Desk
