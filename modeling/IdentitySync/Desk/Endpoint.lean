import IdentitySync.Http.Message
import IdentitySync.Json.Basic

/-!
The places of the service desk's interface and the requests to them.
-/
namespace IdentitySync.Desk
open Text Http

inductive Endpoint where
  | agents
  | agent (id : UInt64)
  | ownAgent
  | requesters
  | groups
  | group (id : UInt64)
  | roles
  | requesterGroups
  | members (groupId : UInt64)
  | member (groupId requesterId : UInt64)
  | items
  | item (displayId : UInt64)
  | placement (displayId : UInt64)
  | ticket (id : UInt64)
deriving DecidableEq, Repr

def idSegment (id : UInt64) : String := numeral id.toNat

def Endpoint.path : Endpoint → String
  | .agents => "agents"
  | .agent id => "agents/" ++ idSegment id
  | .ownAgent => "agents/me"
  | .requesters => "requesters"
  | .groups => "groups"
  | .group id => "groups/" ++ idSegment id
  | .roles => "roles"
  | .requesterGroups => "requester_groups"
  | .members g => "requester_groups/" ++ idSegment g ++ "/members"
  | .member g r =>
    "requester_groups/" ++ idSegment g ++ "/members/" ++ idSegment r
  | .items => "service_catalog/items"
  | .item displayId => "service_catalog/items/" ++ idSegment displayId
  | .placement displayId => "service_catalog/items/" ++ idSegment displayId ++ "/place_request"
  | .ticket id => "tickets/" ++ idSegment id

structure Request where
  method : Method
  endpoint : Endpoint
  query : List (String × String)
  body : Option Json

namespace Request

def isWrite (r : Request) : Bool := r.method != .get

end Request

end IdentitySync.Desk
