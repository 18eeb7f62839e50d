import IdentitySync.Access.Resource

/-!
The resource types that the connector publishes.
-/
namespace IdentitySync.Desk

def agentId : String := "agent"

def requesterId : String := "requester"

def agentGroupId : String := "agent_group"

def roleId : String := "role"

def requesterGroupId : String := "requester_group"

namespace Published

def agent : ResourceType :=
  ((ResourceType.new agentId "Agent").describedAs "Agent users of Freshservice").withTrait .user

def requester : ResourceType :=
  (((ResourceType.new requesterId "Requester").describedAs
    "Requester users of Freshservice").withTrait .user).annotatedWith .skipEntitlementsAndGrants

def agentGroup : ResourceType :=
  ((ResourceType.new agentGroupId "Agent Group").describedAs
    "Agent groups of Freshservice").withTrait .group

def role : ResourceType :=
  ((ResourceType.new roleId "Role").describedAs "Agent roles of Freshservice").withTrait .role

def requesterGroup : ResourceType :=
  ((ResourceType.new requesterGroupId "Requester Group").describedAs
    "Requester groups of Freshservice").withTrait .group

end Published

end IdentitySync.Desk
