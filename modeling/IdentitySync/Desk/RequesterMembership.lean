import IdentitySync.Desk.GroupMembership

/-!
Membership of requesters in requester groups. Members come in pages and are added and removed one
at a time.
-/
namespace IdentitySync.Desk

def requesterGroupEntitlement (group : Resource) : Entitlement :=
  (((Entitlement.assignment group memberSlug).named
    (group.displayName ++ " Requester Group member")).describedAs
    ("Access to " ++ group.displayName ++ " requester group in Freshservice")).grantableAlsoTo
    requesterId

def requesterPrincipal (id : UInt64) : ResourceId := ⟨requesterId, idText id⟩

namespace RequesterMembership

/-- A next page that lies ahead leaves fewer page numbers to visit. -/
theorem scan_advances {page next : UInt32} (h : page < next) :
    UInt32.size - (max next 1).toNat < UInt32.size - page.toNat := by
  have ahead : page.toNat < next.toNat := UInt32.lt_iff_toNat_lt.mp h
  have bound : page.toNat < UInt32.size := page.toNat_lt
  have kept : next.toNat ≤ (max next 1).toNat := by
    by_cases one : next ≤ 1
    · simpa [max, one] using UInt32.le_iff_toNat_le.mp one
    · simp [max, one]
  omega

/-- Looks for a requester page by page. Every fault ends the scan; so does a next page that does
    not come after the page that names it. -/
def scan (c : Client) (groupId id : UInt64) (p : PageRequest) :
    Call (Bool × Option RateLimit) :=
  (c.membersStrict groupId p).bind fun page =>
    if page.items.any fun m => m.id = id then .done (true, page.rateLimit)
    else match page.next with
      | none => .done (false, page.rateLimit)
      | some next =>
        if _h : p.page < next then scan c groupId id (.new next p.perPage)
        else .done (false, page.rateLimit)
termination_by UInt32.size - p.page.toNat
decreasing_by exact scan_advances (by assumption)

def isMember (c : Client) (groupId id : UInt64) : Call (Bool × Option RateLimit) :=
  scan c groupId id .first

def grants (c : Client) (group : Resource) (token : PageToken) : Op (SyncPage Grant) := do
  let groupId ← recordIdOp group.id
  listing requesterId (c.members groupId)
    (fun m => Grant.new (requesterGroupEntitlement group) (requesterPrincipal m.id)) token

def grant (c : Client) (principal : ResourceId) (e : Entitlement) : Op Annotations := do
  requirePrincipal principal requesterId "granted requester group membership"
  let groupId ← recordIdOp e.resource.id
  let id ← recordIdOp principal
  let (present, rateLimit) ← (isMember c groupId id).op
  if present then .done (remarked rateLimit .grantAlreadyExists)
  else
    let added ← (c.addMember groupId id).op
    .done (Annotations.withRateLimit [] added.rateLimit)

def revoke (c : Client) (g : Grant) : Op Annotations := do
  requirePrincipal g.principal requesterId "revoked requester group membership"
  let groupId ← recordIdOp g.entitlement.resource.id
  let id ← recordIdOp g.principal
  let (present, rateLimit) ← (isMember c groupId id).op
  if !present then .done (remarked rateLimit .grantAlreadyRevoked)
  else
    let removed ← (c.removeMember groupId id).op
    .done (Annotations.withRateLimit [] removed.rateLimit)

end RequesterMembership

end IdentitySync.Desk
