import IdentitySync.Desk.GroupMembership

/-!
Roles of agents. Who holds a role is found by looking at every agent and then at every agent group,
one page per call. A change reads an agent's roles, edits the list and writes all of it back.
-/
namespace IdentitySync.Desk

def assignedSlug : String := "assigned"

/-- Only agents can be granted it; grants of groups are listed but cannot be changed. -/
def roleEntitlement (role : Resource) : Entitlement :=
  (((Entitlement.assignment role assignedSlug).named
    (role.displayName ++ " role assigned")).describedAs
    ("Assigned to " ++ role.displayName ++ " role")).grantableAlsoTo agentId

def agentGroupPrincipal (id : UInt64) : ResourceId := ⟨agentGroupId, idText id⟩

inductive RoleCursor where
  | users (page : UInt32)
  | groups (page : UInt32)
  | done
deriving DecidableEq, Repr

namespace RoleCursor

def start : RoleCursor := .users 1

def pageFields := Fields.cons (.required "page" .word32) .nil

def written : RoleCursor → String × List (String × Json)
  | .users page => ("awaiting_users", pageFields.encode (page, ()))
  | .groups page => ("awaiting_groups", pageFields.encode (page, ()))
  | .done => ("done", [])

def codec : Codec RoleCursor :=
  .tagged "RoleGrantCursor" "phase"
    [("awaiting_users", .fields "struct variant RoleGrantCursor::AwaitingUsers" pageFields
       fun (page, ()) => .users page),
     ("awaiting_groups", .fields "struct variant RoleGrantCursor::AwaitingGroups" pageFields
       fun (page, ()) => .groups page),
     ("done", .nothing .done)] written

/-- The empty token starts a scan. -/
def ofToken (token : String) : Except Failure RoleCursor :=
  if token = "" then .ok start
  else match codec.read token with
    | .ok c => .ok c
    | .error e => .error (.invalidPageToken ("bad role grant cursor: " ++ e.message))

def token : RoleCursor → String
  | .done => ""
  | c => (codec.encode c).text

def afterUsers : Option UInt32 → RoleCursor
  | some page => .users page
  | none => .groups 1

def afterGroups : Option UInt32 → RoleCursor
  | some page => .groups page
  | none => .done

end RoleCursor

namespace RoleAssignment

def holders (principal : α → ResourceId) (holds : α → Bool) (e : Entitlement) (items : List α) :
    List Grant :=
  (items.filter holds).map fun a => Grant.new e (principal a)

def grants (c : Client) (role : Resource) (token : PageToken) : Op (SyncPage Grant) := do
  let id ← recordIdOp role.id
  let cursor ← Exchange.ofExcept (RoleCursor.ofToken token.token)
  match cursor with
  | .users page =>
    let page ← (c.agents (.new page token.size)).op
    .done ⟨holders (fun a => agentPrincipal a.id) (fun a => a.hasRole id) (roleEntitlement role)
      page.items, (RoleCursor.afterUsers page.next).token,
      Annotations.withRateLimit [] page.rateLimit⟩
  | .groups page =>
    let page ← (c.agentGroups (.new page token.size)).op
    .done ⟨holders (fun g => agentGroupPrincipal g.id) (fun g => g.hasRole id)
      (roleEntitlement role) page.items, (RoleCursor.afterGroups page.next).token,
      Annotations.withRateLimit [] page.rateLimit⟩
  | .done => .done .empty

def grant (c : Client) (principal : ResourceId) (e : Entitlement) : Op Annotations := do
  requirePrincipal principal agentId "granted roles"
  let id ← recordIdOp e.resource.id
  let agentNumber ← recordIdOp principal
  let agent ← (c.agent agentNumber).op
  if agent.data.hasRole id then .done (remarked agent.rateLimit .grantAlreadyExists)
  else
    let updated ← (c.setRoles agentNumber (agent.data.roles ++ [.new id])).op
    .done (Annotations.withRateLimit [] updated.rateLimit)

def revoke (c : Client) (g : Grant) : Op Annotations := do
  requirePrincipal g.principal agentId "revoked roles"
  let id ← recordIdOp g.entitlement.resource.id
  let agentNumber ← recordIdOp g.principal
  let agent ← (c.agent agentNumber).op
  if !agent.data.hasRole id then .done (remarked agent.rateLimit .grantAlreadyRevoked)
  else
    let updated ← (c.setRoles agentNumber (agent.data.roles.filter fun r => r.roleId != id)).op
    .done (Annotations.withRateLimit [] updated.rateLimit)

end RoleAssignment

end IdentitySync.Desk
