import IdentitySync.Desk.Endpoint
import IdentitySync.Desk.Image
import IdentitySync.Json.Writer
import IdentitySync.Paging.PageNumber
import IdentitySync.Proofs.Text.Numeral

/-!
Requests as they are sent: method, path behind the base address, query and body, in texts. Ids and
numbers of pages stand in them in decimal.
-/
namespace IdentitySync

/-- Sizes of a page from 1 to 100 count as they are, all others as 100. -/
def boundedSize (size : UInt32) : UInt32 := if 1 ≤ size ∧ size ≤ 100 then size else 100

theorem clampPageSize_eq (size : UInt32) : clampPageSize size = boundedSize size := by
  have same : (size = 0 ∨ greatestPageSize < size) ↔ ¬(1 ≤ size ∧ size ≤ 100) := by
    have bound : greatestPageSize.toNat = 100 := rfl
    have hundred : (100 : UInt32).toNat = 100 := rfl
    have one : (1 : UInt32).toNat = 1 := rfl
    have zero : (0 : UInt32).toNat = 0 := rfl
    rw [UInt32.le_iff_toNat_le, UInt32.le_iff_toNat_le, UInt32.lt_iff_toNat_lt, ← UInt32.toNat_inj]
    omega
  rw [clampPageSize, boundedSize, if_congr same rfl rfl, ite_not]
  rfl

theorem PageRequest.query_eq (p : PageRequest) :
    p.query = [("page", toString p.page), ("per_page", toString p.perPage)] := by
  rw [query, Text.numeral_eq_toString, Text.numeral_eq_toString]
  rfl

namespace Desk

structure Sent where
  method : String
  path : String
  query : List (String × String)
  body : Option String
deriving DecidableEq

def Sent.page (path : String) (page size : UInt32) : Sent :=
  ⟨"GET", path, [("page", toString page), ("per_page", toString size)], none⟩

def Request.sent (q : Request) : Sent :=
  ⟨q.method.name, q.endpoint.path, q.query, q.body.map Json.text⟩

theorem idSegment_eq (id : UInt64) : idSegment id = toString id :=
  Text.numeral_eq_toString id.toNat

theorem idText_eq (id : UInt64) : idText id = toString id := Text.numeral_eq_toString id.toNat

namespace Endpoint

theorem agent_path (id : UInt64) : (agent id).path = "agents/" ++ toString id := by
  rw [← idSegment_eq]
  rfl

theorem group_path (id : UInt64) : (group id).path = "groups/" ++ toString id := by
  rw [← idSegment_eq]
  rfl

theorem members_path (groupId : UInt64) :
    (members groupId).path = "requester_groups/" ++ toString groupId ++ "/members" := by
  rw [← idSegment_eq]
  rfl

theorem member_path (groupId requesterId : UInt64) : (member groupId requesterId).path =
    "requester_groups/" ++ toString groupId ++ "/members/" ++ toString requesterId := by
  rw [← idSegment_eq, ← idSegment_eq]
  rfl

theorem item_path (displayId : UInt64) :
    (item displayId).path = "service_catalog/items/" ++ toString displayId := by
  rw [← idSegment_eq]
  rfl

theorem placement_path (displayId : UInt64) : (placement displayId).path =
    "service_catalog/items/" ++ toString displayId ++ "/place_request" := by
  rw [← idSegment_eq]
  rfl

theorem ticket_path (id : UInt64) : (ticket id).path = "tickets/" ++ toString id := by
  rw [← idSegment_eq]
  rfl

def spelled : Endpoint → String
  | agents => "agents"
  | agent id => "agents/" ++ toString id
  | ownAgent => "agents/me"
  | requesters => "requesters"
  | groups => "groups"
  | group id => "groups/" ++ toString id
  | roles => "roles"
  | requesterGroups => "requester_groups"
  | members g => "requester_groups/" ++ toString g ++ "/members"
  | member g r => "requester_groups/" ++ toString g ++ "/members/" ++ toString r
  | items => "service_catalog/items"
  | item id => "service_catalog/items/" ++ toString id
  | placement id => "service_catalog/items/" ++ toString id ++ "/place_request"
  | ticket id => "tickets/" ++ toString id

theorem path_eq_spelled (e : Endpoint) : e.path = e.spelled := by
  cases e with
  | agent id => exact agent_path id
  | group id => exact group_path id
  | members g => exact members_path g
  | member g r => exact member_path g r
  | item id => exact item_path id
  | placement id => exact placement_path id
  | ticket id => exact ticket_path id
  | agents => rfl
  | ownAgent => rfl
  | requesters => rfl
  | groups => rfl
  | roles => rfl
  | requesterGroups => rfl
  | items => rfl

end Endpoint

end Desk

end IdentitySync
