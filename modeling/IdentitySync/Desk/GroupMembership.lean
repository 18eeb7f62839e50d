import IdentitySync.Desk.Listing

/-!
Membership of agents in agent groups. The group's record has all its members, so a change reads the
record, edits the list and writes all of it back. The write does not notice other writers.
-/
namespace IdentitySync.Desk

def memberSlug : String := "member"

def groupEntitlement (group : Resource) : Entitlement :=
  (((Entitlement.assignment group memberSlug).named
    (group.displayName ++ " Group member")).describedAs
    ("Access to " ++ group.displayName ++ " group in Freshservice")).grantableAlsoTo agentId

def agentPrincipal (id : UInt64) : ResourceId := ⟨agentId, idText id⟩

namespace GroupMembership

def grants (c : Client) (group : Resource) : Op (SyncPage Grant) := do
  let groupId ← recordIdOp group.id
  let reply ← (c.agentGroup groupId).op
  .done ⟨reply.data.members.map fun id => Grant.new (groupEntitlement group) (agentPrincipal id),
    "", Annotations.withRateLimit [] reply.rateLimit⟩

def grant (c : Client) (principal : ResourceId) (e : Entitlement) : Op Annotations := do
  requirePrincipal principal agentId "granted group membership"
  let groupId ← recordIdOp e.resource.id
  let id ← recordIdOp principal
  let group ← (c.agentGroup groupId).op
  if group.data.members.contains id then .done (remarked group.rateLimit .grantAlreadyExists)
  else
    let updated ← (c.setMembers groupId (group.data.members ++ [id])).op
    .done (Annotations.withRateLimit [] updated.rateLimit)

def revoke (c : Client) (g : Grant) : Op Annotations := do
  requirePrincipal g.principal agentId "revoked group membership"
  let groupId ← recordIdOp g.entitlement.resource.id
  let id ← recordIdOp g.principal
  let group ← (c.agentGroup groupId).op
  if !group.data.members.contains id then .done (remarked group.rateLimit .grantAlreadyRevoked)
  else
    let updated ← (c.setMembers groupId (group.data.members.filter fun m => m != id)).op
    .done (Annotations.withRateLimit [] updated.rateLimit)

end GroupMembership

end IdentitySync.Desk
