import IdentitySync.Desk.Listing
import IdentitySync.Ticket.Check
import IdentitySync.Ticket.Outcome

/-!
Tickets through the service catalog. Each item offered there is a ticket schema. A ticket is created
by a request for an item, then updated with what such requests do not take: subject, description
and tags. When the update fails, the ticket is there all the same and the failure carries it.
-/
namespace IdentitySync.Desk

def statusNames : List (UInt32 × String) :=
  [(2, "Open"), (3, "Pending"), (4, "Resolved"), (5, "Closed")]

def statusOf (p : UInt32 × String) : TicketStatus := ⟨Text.numeral p.1.toNat, p.2⟩

def ticketStatuses : List TicketStatus := statusNames.map statusOf

def status? (code : UInt32) : Option TicketStatus :=
  (statusNames.find? fun p => p.1 = code).map statusOf

namespace CatalogField

def textTypes : List String :=
  ["custom_text", "custom_paragraph", "custom_url", "custom_lookup_bigint"]

def kind? (f : CatalogField) : Option FieldKind :=
  if f.fieldType ∈ textTypes then some .text
  else if f.fieldType = "custom_date" then some .moment
  else if f.fieldType = "custom_checkbox" then some .flag
  else if f.fieldType = "custom_dropdown" then some (.pick f.choiceValues)
  else if f.fieldType = "custom_multi_select_dropdown" then some (.picks f.choiceValues)
  else if f.fieldType = "custom_multi_lookup" then some .texts
  else none

def ticketField? (f : CatalogField) : Option TicketField :=
  f.kind?.map fun kind =>
    ⟨f.name, if f.label = "" then f.name else f.label, none, f.required, kind⟩

end CatalogField

namespace CatalogItem

def ticketFields (i : CatalogItem) : List TicketField :=
  (i.customFields.filter fun f => !f.deleted).filterMap CatalogField.ticketField?

/-- The item's form. Of fields with one name the last counts. -/
def schema (i : CatalogItem) : TicketSchema :=
  ⟨idText i.displayId, i.name, .ofList (i.ticketFields.map fun f => (f.id, f)), ticketStatuses⟩

end CatalogItem

def principalText (r : Resource) : String := "ticket principal " ++ r.id.text

/-- A user's login, else the primary email, else the first one. -/
def principalLogin (r : Resource) : Except Failure String :=
  match r.user? with
  | none => .error (.invalidData (principalText r ++ " is not a user"))
  | some u =>
    let email := (u.emails.find? UserEmail.isPrimary).or u.emails.head?
    match u.login.or (email.map UserEmail.address) with
    | some login => .ok login
    | none => .error (.invalidData (principalText r ++ " has no login"))

def numericId (id : String) : Except Failure UInt64 :=
  match Text.readWord64? id with
  | some n => .ok n
  | none => .error (Fault.badId id).failure

namespace DeskTicket

def ticket (t : DeskTicket) (subdomain : String) : Ticket where
  id := idText t.id
  displayName := t.subject.getD ""
  description := (t.descriptionText.or t.description).getD ""
  status := t.status.bind status?
  labels := t.tags
  url := some (ticketUrl subdomain t.id.toNat)
  createdAt := t.createdAt
  updatedAt := t.updatedAt
  customFields := .empty
  requestedFor := none
  reporter := none

end DeskTicket

def presentMembers (members : List (String × Option Json)) : List (String × Json) :=
  members.filterMap fun m => m.2.map fun j => (m.1, j)

def placedFields (t : Ticket) (s : TicketSchema) : List (String × Json) :=
  ((t.customFields.filter fun id _ => s.customFields.contains id).entries).map fun p =>
    (p.1, p.2.plain)

def placementBody (requestedFor : Option String) (email : String) (t : Ticket)
    (s : TicketSchema) : Json :=
  .record <| presentMembers
    [("requested_for", requestedFor.map .string), ("email", some (.string email)),
     ("quantity", some (.natural 1)), ("custom_fields", some (.record (placedFields t s)))]

def updateBody (t : Ticket) : Json :=
  .record <| presentMembers
    [("description", (nonEmpty? t.description).map .string),
     ("subject", (nonEmpty? t.displayName).map .string),
     ("tags", if t.labels.isEmpty then none else some (.strings t.labels))]

namespace Ticketing

def details (c : Client) (rateLimit : Option RateLimit) :
    List CatalogItem → Call (List TicketSchema × Option RateLimit)
  | [] => .done ([], rateLimit)
  | i :: rest =>
    if i.isOffered then do
      let reply ← c.item i.displayId
      let (schemas, last) ← details c (reply.rateLimit.or rateLimit) rest
      .done (reply.data.schema :: schemas, last)
    else details c rateLimit rest

/-- One page of catalog items; drafts and deleted items are passed over. -/
def listSchemas (c : Client) (token : PageToken) : Op (SyncPage TicketSchema) := do
  let request ← Exchange.ofExcept (PageRequest.ofToken token.token token.size)
  let page ← (c.items request).op
  let (schemas, rateLimit) ← (details c page.rateLimit page.items).op
  .done ⟨schemas, page.nextToken, Annotations.withRateLimit [] rateLimit⟩

def schema (c : Client) (id : String) : Op (TicketSchema × Annotations) := do
  let displayId ← Exchange.ofExcept (numericId id)
  let reply ← (c.item displayId).op
  .done (reply.data.schema, Annotations.withRateLimit [] reply.rateLimit)

/-- The address that a ticket is filed by: its reporter, else the agent that the key belongs to. -/
def filedBy (c : Client) (t : Ticket) : Op (String × Annotations) :=
  match t.reporter with
  | some reporter => .ofExcept ((principalLogin reporter).map fun login => (login, []))
  | none => do
    let reply ← c.ownAgent.op
    match reply.data.emailAddress with
    | some email => .done (email, Annotations.withRateLimit [] reply.rateLimit)
    | none => .fail (.invalidData "the API key's agent has no email address")

def requestedForLogin (t : Ticket) : Except Failure (Option String) :=
  match t.requestedFor with
  | none => .ok none
  | some principal => (principalLogin principal).map some

def checkTicket (t : Ticket) (s : TicketSchema) : Except Failure Unit :=
  match s.fault? t with
  | some fault => .error (.invalidData fault.message)
  | none => .ok ()

/-- The update of a ticket that has been created, with what was noted before it. -/
def complete (c : Client) (t : Ticket) (created : DeskTicket) (noted : Annotations) :
    Op (Ticket × Annotations) :=
  (c.updateTicket created.id (updateBody t)).follow
    (fun fault => .fail (.ticketIncomplete (created.ticket c.subdomain) fault.message))
    fun updated => .done (updated.data.ticket c.subdomain, noted.withRateLimit updated.rateLimit)

def create (c : Client) (t : Ticket) (s : TicketSchema) : Op (Ticket × Annotations) := do
  Exchange.ofExcept (checkTicket t s)
  let displayId ← Exchange.ofExcept (numericId s.id)
  let requestedFor ← Exchange.ofExcept (requestedForLogin t)
  let (email, noted) ← filedBy c t
  let created ← (c.placeRequest displayId (placementBody requestedFor email t s)).op
  complete c t created.data (noted.withRateLimit created.rateLimit)

def ticket (c : Client) (id : String) : Op (Ticket × Annotations) := do
  let number ← Exchange.ofExcept (numericId id)
  let reply ← (c.ticket number).op
  .done (reply.data.ticket c.subdomain, Annotations.withRateLimit [] reply.rateLimit)

def createAll (c : Client) (requests : List (Ticket × TicketSchema)) : Op (List TicketOutcome) :=
  TicketOutcome.bulk (fun r => create c r.1 r.2) requests

def tickets (c : Client) (ids : List String) : Op (List TicketOutcome) :=
  TicketOutcome.bulk (ticket c) ids

end Ticketing

end IdentitySync.Desk
