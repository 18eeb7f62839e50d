import IdentitySync.Json.Variant

/-!
Custom fields of tickets: the kinds of values a form asks for, and the values a ticket has.
-/
namespace IdentitySync
open Time

/-- `pick` is one of the allowed texts, `picks` any number of them. -/
inductive FieldKind where
  | text
  | texts
  | flag
  | moment
  | pick (allowed : List String)
  | picks (allowed : List String)
deriving DecidableEq, Repr

def allowedFields := Fields.cons (.required "allowed" (.list .string)) .nil

namespace FieldKind

def written : FieldKind → String × List (String × Json)
  | .text => ("string", [])
  | .texts => ("strings", [])
  | .flag => ("bool", [])
  | .moment => ("timestamp", [])
  | .pick allowed => ("pick_string", allowedFields.encode (allowed, ()))
  | .picks allowed => ("pick_multiple_strings", allowedFields.encode (allowed, ()))

def codec : Codec FieldKind :=
  .tagged "CustomFieldKind" "type"
    [("string", .nothing .text), ("strings", .nothing .texts), ("bool", .nothing .flag),
     ("timestamp", .nothing .moment),
     ("pick_string", .fields "struct variant CustomFieldKind::PickString" allowedFields
       fun (allowed, ()) => .pick allowed),
     ("pick_multiple_strings",
       .fields "struct variant CustomFieldKind::PickMultipleStrings" allowedFields
       fun (allowed, ()) => .picks allowed)] written

def shownAllowed (name : String) (allowed : List String) : String :=
  Text.shownRecord name [("allowed", Text.quotedList allowed)]

def shown : FieldKind → String
  | .text => "String"
  | .texts => "Strings"
  | .flag => "Bool"
  | .moment => "Timestamp"
  | .pick allowed => shownAllowed "PickString" allowed
  | .picks allowed => shownAllowed "PickMultipleStrings" allowed

end FieldKind

inductive FieldValue where
  | text (s : String)
  | texts (xs : List String)
  | flag (b : Bool)
  | moment (t : Timestamp)
  | pick (s : String)
  | picks (xs : List String)
deriving DecidableEq

namespace FieldValue

def written : FieldValue → String × Json
  | .text s => ("string", .string s)
  | .texts xs => ("strings", .strings xs)
  | .flag b => ("bool", .bool b)
  | .moment t => ("timestamp", .string t.text)
  | .pick s => ("pick_string", .string s)
  | .picks xs => ("pick_multiple_strings", .strings xs)

def reader (c : Codec α) (f : α → FieldValue) : Reader FieldValue :=
  fun src d => (c.decode src d).map f

def codec : Codec FieldValue :=
  .adjacent "CustomFieldValue" "type" "value"
    [("string", reader .string .text), ("strings", reader (.list .string) .texts),
     ("bool", reader .bool .flag), ("timestamp", reader .timestamp .moment),
     ("pick_string", reader .string .pick),
     ("pick_multiple_strings", reader (.list .string) .picks)] written

def plain : FieldValue → Json
  | .text s => .string s
  | .texts xs => .strings xs
  | .flag b => .bool b
  | .moment t => .string t.textWithOffset
  | .pick s => .string s
  | .picks xs => .strings xs

end FieldValue

structure TicketField where
  id : String
  displayName : String
  description : Option String
  required : Bool
  kind : FieldKind
deriving DecidableEq, Repr

namespace TicketField

def fields := Fields.cons (.required "id" .string) <|
  .cons (.required "display_name" .string) <|
  .cons (.optional "description" .string) <|
  .cons (.defaulted "required" .bool false) <|
  .cons (.required "kind" FieldKind.codec) .nil

def view (f : TicketField) := (f.id, f.displayName, f.description, f.required, f.kind, ())

def codec : Codec TicketField :=
  .record "struct TicketCustomField" fields view
    fun (id, displayName, description, required, kind, ()) =>
      ⟨id, displayName, description, required, kind⟩

end TicketField

end IdentitySync
