import IdentitySync.Proofs.Desk.Addressing
import IdentitySync.Proofs.Desk.CallLog
import IdentitySync.Proofs.Desk.PageWalk

/-!
Walks through the service catalog. A call lists one page of items, then asks for the details of
every item of the page that is offered. The page may come too late and then counts as an empty last
one, but no detail may: the first one that cannot be had ends the call.
-/
namespace IdentitySync.Desk
open Http Exchange Client

variable {σ : Type} {server : σ → Request → Answer × σ} {c : Client}

namespace Ticketing

end Ticketing

def itemGet (displayId : UInt64) : Request := ⟨.get, .item displayId, [], none⟩

namespace Ticketing

end Ticketing

def itemsGet (c : Client) (p : PageRequest) : Request := pageAsk .items p c.categoryQuery

def offered (items : List CatalogItem) : List CatalogItem := items.filter CatalogItem.isOffered

def detailGets (items : List CatalogItem) : List Request :=
  (offered items).map fun i => itemGet i.displayId

/-- The request for a page of the catalog, of one category if there is one. -/
def catalogPage (category : Option String) (page size : UInt32) : Sent :=
  ⟨"GET", "service_catalog/items",
    [("page", toString page), ("per_page", toString (boundedSize size))] ++
      (category.map fun id => ("category_id", id)).toList, none⟩

def detailed (detail : UInt64 → CatalogItem) (items : List CatalogItem) : List TicketSchema :=
  (offered items).map fun i => (detail i.displayId).schema

variable {items : UInt32 → List CatalogItem} {next : UInt32 → Option UInt32}
  {detail : UInt64 → CatalogItem}

namespace Ticketing

end Ticketing

/-- The visit asked for this one page and then, in order, for the details of the items on it that
    are offered. It gave the forms of these details, and it has no token exactly when no page
    follows. -/
structure VisitsCatalog (c : Client) (items : UInt32 → List CatalogItem)
    (next : UInt32 → Option UInt32) (detail : UInt64 → CatalogItem) (page size : UInt32)
    (v : Visit (SyncPage TicketSchema)) : Prop where
  asked : v.asked = itemsGet c ⟨page, clampPageSize size⟩ :: detailGets (items page)
  sent : v.asked.map Request.sent = catalogPage c.categoryId page size :: (offered (items page)).map
    fun i => ⟨"GET", "service_catalog/items/" ++ toString i.displayId, [], none⟩
  gave : ∃ p, v.outcome = .done p ∧ p.items = detailed detail (items page) ∧
    (p.nextToken = "" ↔ next page = none)

theorem VisitsCatalog.schemas (page size : UInt32) (v : Visit (SyncPage TicketSchema))
    (seen : VisitsCatalog c items next detail page size v) :
    v.items = detailed detail (items page) := by
  obtain ⟨p, outcome, given, _⟩ := seen.gave
  rw [Visit.items, outcome]
  exact given

end IdentitySync.Desk
