import IdentitySync.Access.Entitlement
import IdentitySync.Desk.Client
import IdentitySync.Desk.Image

/-!
Listings of resources, one page of the service desk per call, and what the operations on them share.
-/
namespace IdentitySync.Desk
open Http

abbrev Op := Exchange Request Answer Failure

def Call.op (p : Call α) : Op α := p.mapFailure Fault.failure

def recordId (id : ResourceId) : Except Fault UInt64 :=
  match Text.readWord64? id.resource with
  | some n => .ok n
  | none => .error (.badId id.text)

def recordIdOp (id : ResourceId) : Op UInt64 := Call.op (Exchange.ofExcept (recordId id))

def connectorName : String := "freshservice-connector"

def requirePrincipal (principal : ResourceId) (expected action : String) : Op Unit :=
  if principal.resourceType = expected then .done ()
  else .fail (.principalMismatch connectorName expected principal.resourceType action)

/-- The page of a listing that a token points at, as images of its records. -/
def listing (resourceType : String) (fetch : PageRequest → Call (Page α)) (image : α → β)
    (token : PageToken) : Op (SyncPage β) := do
  let stack ← Exchange.ofExcept (PageStack.resume token.token resourceType)
  let request ← Exchange.ofExcept (stack.request token.size)
  let page ← Call.op (fetch request)
  .done ⟨page.items.map image, stack.nextToken page.next,
    Annotations.withRateLimit [] page.rateLimit⟩

def listAgents (c : Client) (token : PageToken) : Op (SyncPage Resource) :=
  listing agentId c.agents Agent.resource token

def listRequesters (c : Client) (token : PageToken) : Op (SyncPage Resource) :=
  listing requesterId c.requesters Requester.resource token

def listAgentGroups (c : Client) (token : PageToken) : Op (SyncPage Resource) :=
  listing agentGroupId c.agentGroups AgentGroup.resource token

def listRoles (c : Client) (token : PageToken) : Op (SyncPage Resource) :=
  listing roleId c.roles Role.resource token

def listRequesterGroups (c : Client) (token : PageToken) : Op (SyncPage Resource) :=
  listing requesterGroupId c.requesterGroups RequesterGroup.resource token

def single (e : Entitlement) : SyncPage Entitlement := ⟨[e], "", []⟩

/-- A remark behind the rate limit of the answer that it rests on. -/
def remarked (rateLimit : Option RateLimit) (a : Annotation) : Annotations :=
  Annotations.withRateLimit [] rateLimit ++ [a]

end IdentitySync.Desk
