import IdentitySync.Desk.Account
import IdentitySync.Desk.Agent
import IdentitySync.Desk.Catalog
import IdentitySync.Desk.Directory
import IdentitySync.Desk.Endpoint
import IdentitySync.Http.Exchange
import IdentitySync.Http.Link
import IdentitySync.Http.Quota
import IdentitySync.Json.Writer
import IdentitySync.Paging.PageNumber
import IdentitySync.Text.Base64

/-!
Calls to the service desk. Every call sends one request and gives what the answer holds together
with the quota that it reports; nothing is tried again.
-/
namespace IdentitySync.Desk
open Http

abbrev Call := Exchange Request Answer Fault

structure Page (α : Type) where
  items : List α
  next : Option UInt32
  rateLimit : Option RateLimit

structure Reply (α : Type) where
  data : α
  rateLimit : Option RateLimit

namespace Page

def empty : Page α := ⟨[], none, none⟩

def nextToken (p : Page α) : String := pageToken p.next

end Page

structure FieldComplaint where
  field : Option String
  message : Option String

/-- What the service desk says about an error, as far as it can be read. -/
structure Complaint where
  description : Option String
  message : Option String
  errors : List FieldComplaint

namespace FieldComplaint

def fields := Fields.cons (.nullable "field" .string) <| .cons (.nullable "message" .string) .nil

def codec : Codec FieldComplaint :=
  .record "struct FieldError" fields (fun c => (c.field, c.message, ())) fun (field, message, ()) =>
    ⟨field, message⟩

def text? (c : FieldComplaint) : Option String :=
  match c.field, c.message with
  | some field, some message => some (field ++ ": " ++ message)
  | none, some message => some message
  | _, none => none

end FieldComplaint

namespace Complaint

def fields := Fields.cons (.nullable "description" .string) <|
  .cons (.nullable "message" .string) <|
  .cons (.defaulted "errors" (.list FieldComplaint.codec) []) .nil

def codec : Codec Complaint :=
  .record "struct ErrorBody" fields (fun c => (c.description, c.message, c.errors, ()))
    fun (description, message, errors, ()) => ⟨description, message, errors⟩

def summary? (c : Complaint) : Option String :=
  (c.description.or c.message).map fun head =>
    let details := c.errors.filterMap FieldComplaint.text?
    if details.isEmpty then head else head ++ " (" ++ "; ".intercalate details ++ ")"

/-- The complaint in a body, else the body, else the status. -/
def textOf (status : Nat) (body : String) : String :=
  match (codec.read body).toOption.bind summary? with
  | some text => text
  | none => if body = "" then statusLine status else body

end Complaint

def faultOf (path : String) (r : Response) : Fault :=
  let text := Complaint.textOf r.status (r.body.toOption.getD "")
  if r.status = 401 then .unauthorized text
  else if r.status = 403 then .forbidden (path ++ ": " ++ text)
  else if r.status = 404 then .notFound path
  else if r.status = 408 then .timedOut text
  else if r.status = 429 then .rateLimited r.retryAfter
  else .api r.status text

def memberOf? (key : String) : Json → Option Json
  | .record fields => fields.lookup key
  | _ => none

def decodeBody (c : Codec α) (key : String) (r : Response) : Except Fault α :=
  match r.body with
  | .error f => .error (.transport f)
  | .ok body =>
    match Json.parse? body with
    | none => .error (.badJson .malformed)
    | some v =>
      match memberOf? key v.json with
      | none => .error (.badJson (.noEnvelope key))
      | some inner =>
        match c.decode .value inner.document with
        | .error e => .error (.badJson e)
        | .ok a => .ok a

structure Client where
  baseUrl : String
  subdomain : String
  apiKey : String
  categoryId : Option String
deriving DecidableEq, Repr

namespace Client

def new (a : Account) : Except Fault Client :=
  match Url.parse a.baseUrl with
  | .error e => .error (.badUrl e)
  | .ok _ => .ok ⟨a.baseUrl, a.subdomain, a.apiKey, a.categoryId⟩

def address (c : Client) (e : Endpoint) : String := c.baseUrl ++ "/" ++ e.path

def authorization (c : Client) : String :=
  "Basic " ++ Text.base64 (c.apiKey ++ ":" ++ keyPassword)

/-- Path and query of a request as they are sent; nothing when there is no such address. -/
def target? (c : Client) (r : Request) : Option String :=
  match Url.parse (c.address r.endpoint) with
  | .error _ => none
  | .ok l => some (l.target r.query)

/-- Sends a request and gives the answer if it is one of success. One question is one send of the
    HTTP library: redirects that the library follows by itself are part of it, and the answer is the
    one that it ends up with. -/
def send (c : Client) (r : Request) : Call Response :=
  match c.target? r with
  | none => .fail (.transport .interrupted)
  | some _ => .ask r fun
    | .error f => .fail (.transport f)
    | .ok response =>
      if response.isSuccess then .done response else .fail (faultOf r.endpoint.path response)

def withQuota (r : Response) (rest : Option RateLimit → Call α) : Call α :=
  match quota? r with
  | none => .crash
  | some rateLimit => rest rateLimit

def reply (c : Client) (codec : Codec α) (key : String) (r : Request) : Call (Reply α) := do
  let response ← c.send r
  withQuota response fun rateLimit =>
    .ofExcept ((decodeBody codec key response).map fun data => ⟨data, rateLimit⟩)

/-- For requests whose answer has no record. -/
def acknowledge (c : Client) (r : Request) : Call (Reply Unit) := do
  let response ← c.send r
  withQuota response fun rateLimit => .done ⟨(), rateLimit⟩

def nextOf (r : Response) : Option UInt32 := (header? r.headers "Link").bind nextPage?

/-- One page of a listing; every fault is kept. -/
def strictPage (c : Client) (codec : Codec α) (key : String) (e : Endpoint) (p : PageRequest)
    (more : List (String × String)) : Call (Page α) := do
  let response ← c.send ⟨.get, e, p.query ++ more, none⟩
  withQuota response fun rateLimit =>
    .ofExcept ((decodeBody codec.list key response).map fun items =>
      ⟨items, nextOf response, rateLimit⟩)

/-- One page of a listing; a soft fault ends the listing with an empty page. -/
def page (c : Client) (codec : Codec α) (key : String) (e : Endpoint) (p : PageRequest)
    (more : List (String × String)) : Call (Page α) :=
  (c.strictPage codec key e p more).follow
    (fun f => if f.isSoft then .done .empty else .fail f) .done

def agents (c : Client) (p : PageRequest) : Call (Page Agent) :=
  c.page Agent.codec "agents" .agents p []

def agent (c : Client) (id : UInt64) : Call (Reply Agent) :=
  c.reply Agent.codec "agent" ⟨.get, .agent id, [], none⟩

def ownAgent (c : Client) : Call (Reply Agent) :=
  c.reply Agent.codec "agent" ⟨.get, .ownAgent, [], none⟩

def rolesBody (roles : List AgentRole) : Json :=
  .record [("roles", (Codec.list AgentRole.codec).encode roles)]

def setRoles (c : Client) (id : UInt64) (roles : List AgentRole) : Call (Reply Agent) :=
  c.reply Agent.codec "agent" ⟨.put, .agent id, [], some (rolesBody roles)⟩

def requesters (c : Client) (p : PageRequest) : Call (Page Requester) :=
  c.page Requester.codec "requesters" .requesters p []

def agentGroups (c : Client) (p : PageRequest) : Call (Page AgentGroup) :=
  c.page AgentGroup.codec "groups" .groups p []

def agentGroup (c : Client) (id : UInt64) : Call (Reply AgentGroup) :=
  c.reply AgentGroup.codec "group" ⟨.get, .group id, [], none⟩

def membersBody (members : List UInt64) : Json :=
  .record [("members", (Codec.list Codec.word64).encode members)]

def setMembers (c : Client) (id : UInt64) (members : List UInt64) : Call (Reply AgentGroup) :=
  c.reply AgentGroup.codec "group" ⟨.put, .group id, [], some (membersBody members)⟩

def roles (c : Client) (p : PageRequest) : Call (Page Role) :=
  c.page Role.codec "roles" .roles p []

def requesterGroups (c : Client) (p : PageRequest) : Call (Page RequesterGroup) :=
  c.page RequesterGroup.codec "requester_groups" .requesterGroups p []

def members (c : Client) (groupId : UInt64) (p : PageRequest) : Call (Page GroupMember) :=
  c.page GroupMember.codec "requesters" (.members groupId) p []

/-- Members as a write needs them: a listing that breaks off is a fault. -/
def membersStrict (c : Client) (groupId : UInt64) (p : PageRequest) : Call (Page GroupMember) :=
  c.strictPage GroupMember.codec "requesters" (.members groupId) p []

def addMember (c : Client) (groupId requesterId : UInt64) : Call (Reply Unit) :=
  c.acknowledge ⟨.post, .member groupId requesterId, [], none⟩

def removeMember (c : Client) (groupId requesterId : UInt64) : Call (Reply Unit) :=
  c.acknowledge ⟨.delete, .member groupId requesterId, [], none⟩

def categoryQuery (c : Client) : List (String × String) :=
  c.categoryId.toList.map fun id => ("category_id", id)

/-- Catalog items, of the account's category if it has one. -/
def items (c : Client) (p : PageRequest) : Call (Page CatalogItem) :=
  c.page CatalogItem.codec "service_items" .items p c.categoryQuery

def item (c : Client) (displayId : UInt64) : Call (Reply CatalogItem) :=
  c.reply CatalogItem.codec "service_item" ⟨.get, .item displayId, [], none⟩

def placeRequest (c : Client) (displayId : UInt64) (body : Json) : Call (Reply DeskTicket) :=
  c.reply DeskTicket.codec "service_request" ⟨.post, .placement displayId, [], some body⟩

def ticket (c : Client) (id : UInt64) : Call (Reply DeskTicket) :=
  c.reply DeskTicket.codec "ticket" ⟨.get, .ticket id, [], none⟩

def updateTicket (c : Client) (id : UInt64) (body : Json) : Call (Reply DeskTicket) :=
  c.reply DeskTicket.codec "ticket" ⟨.put, .ticket id, [], some body⟩

end Client

end IdentitySync.Desk
