import IdentitySync.Access.Resource
import IdentitySync.Ticket.Field

/-!
Tickets and the forms (schemas) they follow.
-/
namespace IdentitySync
open Time

structure TicketStatus where
  id : String
  displayName : String
deriving DecidableEq, Repr

namespace TicketStatus

def fields := Fields.cons (.required "id" .string) <| .cons (.required "display_name" .string) .nil

def view (s : TicketStatus) := (s.id, s.displayName, ())

def codec : Codec TicketStatus :=
  .record "struct TicketStatus" fields view fun (id, displayName, ()) => ⟨id, displayName⟩

end TicketStatus

structure TicketSchema where
  id : String
  displayName : String
  customFields : KeyedMap TicketField
  statuses : List TicketStatus

namespace TicketSchema

def fields := Fields.cons (.required "id" .string) <|
  .cons (.required "display_name" .string) <|
  .cons (.defaulted "custom_fields" (.map TicketField.codec) .empty) <|
  .cons (.defaulted "statuses" (.list TicketStatus.codec) []) .nil

def view (s : TicketSchema) := (s.id, s.displayName, s.customFields, s.statuses, ())

def codec : Codec TicketSchema :=
  .record "struct TicketSchema" fields view fun (id, displayName, customFields, statuses, ()) =>
    ⟨id, displayName, customFields, statuses⟩

end TicketSchema

/-- A ticket. Its id is empty until the target system gives it one; without a reporter it is filed
    by the account that the connector uses. -/
structure Ticket where
  id : String
  displayName : String
  description : String
  status : Option TicketStatus
  labels : List String
  url : Option String
  createdAt : Option Timestamp
  updatedAt : Option Timestamp
  customFields : KeyedMap FieldValue
  requestedFor : Option Resource
  reporter : Option Resource

namespace Ticket

def fields := Fields.cons (.defaulted "id" .string "") <|
  .cons (.defaulted "display_name" .string "") <|
  .cons (.defaulted "description" .string "") <|
  .cons (.optional "status" TicketStatus.codec) <|
  .cons (.defaulted "labels" (.list .string) []) <|
  .cons (.optional "url" .string) <|
  .cons (.optional "created_at" .timestamp) <|
  .cons (.optional "updated_at" .timestamp) <|
  .cons (.defaulted "custom_fields" (.map FieldValue.codec) .empty) <|
  .cons (.optional "requested_for" Resource.codec) <|
  .cons (.optional "reporter" Resource.codec) .nil

def view (t : Ticket) :=
  (t.id, t.displayName, t.description, t.status, t.labels, t.url, t.createdAt, t.updatedAt,
    t.customFields, t.requestedFor, t.reporter, ())

def codec : Codec Ticket :=
  .record "struct Ticket" fields view
    fun (id, displayName, description, status, labels, url, createdAt, updatedAt, customFields,
        requestedFor, reporter, ()) =>
      ⟨id, displayName, description, status, labels, url, createdAt, updatedAt, customFields,
        requestedFor, reporter⟩

end Ticket

end IdentitySync
