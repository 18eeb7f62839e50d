import IdentitySync.Desk.RequesterMembership
import IdentitySync.Desk.RoleAssignment
import IdentitySync.Desk.Ticketing

/-!
The connector of an account: the resource types that it synchronizes, each with its listings and
its grants and revocations, and ticketing when the account has it switched on.
-/
namespace IdentitySync.Desk

structure Connector where
  client : Client
  ticketing : Bool
deriving DecidableEq, Repr

namespace Connector

def new (a : Account) : Except Failure Connector :=
  match a.check with
  | .error f => .error f.failure
  | .ok () =>
    match Client.new a with
    | .error f => .error f.failure
    | .ok client => .ok ⟨client, a.ticketing⟩

def info : ConnectorInfo :=
  ⟨"Freshservice Connector",
    "Connector syncing users, groups, roles and requester groups from Freshservice."⟩

/-- Lists a single agent to see that the key and the subdomain work. -/
def validate (c : Connector) : Op Annotations := do
  let page ← (c.client.agents (.new 1 1)).op
  .done (Annotations.withRateLimit [] page.rateLimit)

end Connector

/-- The kinds of resources, in the order in which they are synchronized. -/
inductive Syncer where
  | agents
  | requesters
  | agentGroups
  | roles
  | requesterGroups
deriving DecidableEq, Repr

namespace Syncer

def all : List Syncer := [agents, requesters, agentGroups, roles, requesterGroups]

def resourceType : Syncer → ResourceType
  | .agents => Published.agent
  | .requesters => Published.requester
  | .agentGroups => Published.agentGroup
  | .roles => Published.role
  | .requesterGroups => Published.requesterGroup

def list (s : Syncer) (c : Client) (token : PageToken) : Op (SyncPage Resource) :=
  match s with
  | .agents => listAgents c token
  | .requesters => listRequesters c token
  | .agentGroups => listAgentGroups c token
  | .roles => listRoles c token
  | .requesterGroups => listRequesterGroups c token

def entitlements (s : Syncer) (r : Resource) : SyncPage Entitlement :=
  match s with
  | .agents => .empty
  | .requesters => .empty
  | .agentGroups => single (groupEntitlement r)
  | .roles => single (roleEntitlement r)
  | .requesterGroups => single (requesterGroupEntitlement r)

def grants (s : Syncer) (c : Client) (r : Resource) (token : PageToken) : Op (SyncPage Grant) :=
  match s with
  | .agents => .done .empty
  | .requesters => .done .empty
  | .agentGroups => GroupMembership.grants c r
  | .roles => RoleAssignment.grants c r token
  | .requesterGroups => RequesterMembership.grants c r token

def unsupported (s : Syncer) (operation : String) : Failure :=
  .notSupported operation s.resourceType.id

def grant (s : Syncer) (c : Client) (principal : ResourceId) (e : Entitlement) : Op Annotations :=
  match s with
  | .agents => .fail (s.unsupported "grant")
  | .requesters => .fail (s.unsupported "grant")
  | .agentGroups => GroupMembership.grant c principal e
  | .roles => RoleAssignment.grant c principal e
  | .requesterGroups => RequesterMembership.grant c principal e

def revoke (s : Syncer) (c : Client) (g : Grant) : Op Annotations :=
  match s with
  | .agents => .fail (s.unsupported "revoke")
  | .requesters => .fail (s.unsupported "revoke")
  | .agentGroups => GroupMembership.revoke c g
  | .roles => RoleAssignment.revoke c g
  | .requesterGroups => RequesterMembership.revoke c g

end Syncer

end IdentitySync.Desk
