import IdentitySync.Desk.Connector
import IdentitySync.Proofs.Desk.Answer
import IdentitySync.Proofs.Desk.Record
import IdentitySync.Proofs.Desk.Walk
import IdentitySync.Proofs.Paging.PageToken

/-!
Walks through the listings that carry their place in a page stack. Against every server that serves
pages, each call asks for exactly the page that the one before named, gives the images of its
records, and has no token when no page follows. So a walk over a finite chain gives the image of
every record once and in order.
-/
namespace IdentitySync.Desk
open Http Client

variable {α β σ : Type}

/-- The server answers the client's requests for pages of a listing: the page's records and a link
    to the next page, or a time-out. What it does otherwise, and what it remembers, is left open. -/
structure ServesPages (c : Client) (server : σ → Request → Answer × σ) (codec : Codec α)
    (key : String) (e : Endpoint) (items : UInt32 → List α) (next : UInt32 → Option UInt32) :
    Prop where
  reached : c.Reaches e
  answers : ∀ s page size, ∃ r, (server s (pageGet e (.new page size))).1 = .ok r ∧
    PageAnswer codec key (items (max page 1)) (next (max page 1)) r

/-- A server that serves a listing in pages, in every state and for every size of a page in its own
    way, with answers of success. -/
structure ServesListing (c : Client) (server : σ → Request → Answer × σ) (codec : Codec α)
    (key : String) (e : Endpoint) (cut : σ → UInt32 → Paged α) : Prop where
  reached : c.Reaches e
  page : ∀ s size, ∀ page ∈ (cut s size).pages, ∃ r,
    (server s (pageGet e ⟨page, clampPageSize size⟩)).1 = .ok r ∧
    Delivers codec.list key ((cut s size).items page) r ∧
    (header? r.headers "Link").bind nextPage? = (cut s size).next page

theorem ServesListing.answer {c : Client} {server : σ → Request → Answer × σ} {codec : Codec α}
    {key : String} {e : Endpoint} {cut : σ → UInt32 → Paged α}
    (serves : ServesListing c server codec key e cut) {s : σ} {size : UInt32} {l : Paged α}
    (own : cut s size = l) {page : UInt32} (onChain : page ∈ l.pages) :
    ∃ r, (server s (pageGet e ⟨page, clampPageSize size⟩)).1 = .ok r ∧
      PageAnswer codec key (l.items page) (l.next page) r := by
  subst own
  obtain ⟨r, answer, delivers, link⟩ := serves.page s size page onChain
  exact ⟨r, answer, link ▸ .records delivers⟩

/-- The visit asked for this one page, with the size brought into its bounds, and gave the images
    of its records; it has no token exactly when no page follows. -/
structure VisitsPage (e : Endpoint) (path : String) (image : α → β) (items : UInt32 → List α)
    (next : UInt32 → Option UInt32) (page size : UInt32) (v : Visit (SyncPage β)) : Prop where
  asked : v.asked = [pageGet e ⟨page, clampPageSize size⟩]
  sent : v.asked.map Request.sent = [.page path page (boundedSize size)]
  bounds : 1 ≤ clampPageSize size ∧ clampPageSize size ≤ 100
  gave : ∃ p, v.outcome = .done p ∧ p.items = (items page).map image ∧
    (p.nextToken = "" ↔ next page = none)

/-- The call walks the listing completely: its visits follow the orbit of the first page, and over
    a finite chain of pages they give the image of every record, in order. -/
def WalksCompletely (c : Client) (server : σ → Request → Answer × σ) (codec : Codec α)
    (key : String) (e : Endpoint) (path : String) (image : α → β)
    (call : PageToken → Op (SyncPage β)) : Prop :=
  ∀ items next, ServesPages c server codec key e items next → ∀ (sizes : List UInt32) (s : σ),
    List.Forall₂ (fun stop v => VisitsPage e path image items next stop.1 stop.2 v)
      ((orbit next sizes.length 1).zip sizes) (walk server call sizes "" s) ∧
    ∀ pages, PageChain next 1 pages → pages.length ≤ sizes.length →
      (walk server call sizes "" s).length = pages.length ∧
      (walk server call sizes "" s).flatMap Visit.items = (pages.flatMap items).map image

def pageNumber (q : Request) : UInt32 :=
  ((q.query.lookup "page").bind Text.readWord32?).getD 1

theorem pageNumber_pageGet (e : Endpoint) (p : PageRequest) :
    pageNumber (pageGet e p) = p.page := by
  have first : (pageGet e p).query.lookup "page" = some (Text.numeral p.page.toNat) := rfl
  rw [pageNumber, first, Option.bind_some, Text.readWord32?_numeral, Option.getD_some]

/-- The server whose answers depend on the listing and on the number of the page alone. -/
def pagedServer (answer : Endpoint → UInt32 → Response) : Unit → Request → Answer × Unit :=
  fun _ q => (.ok (answer q.endpoint (pageNumber q)), ())

theorem pagedServer_serves {c : Client} {answer : Endpoint → UInt32 → Response} {codec : Codec α}
    {key : String} {e : Endpoint} {items : UInt32 → List α} {next : UInt32 → Option UInt32}
    (reached : c.Reaches e)
    (stands : ∀ page, PageAnswer codec key (items page) (next page) (answer e page)) :
    ServesPages c (pagedServer answer) codec key e items next := by
  refine ⟨reached, fun s page size => ⟨answer e (max page 1), ?_, stands (max page 1)⟩⟩
  have number : pageNumber (pageGet e (.new page size)) = max page 1 := pageNumber_pageGet e _
  simp only [pagedServer, number]
  rfl

theorem ServesPages.page {c : Client} {server : σ → Request → Answer × σ} {codec : Codec α}
    {key : String} {e : Endpoint} {items : UInt32 → List α} {next : UInt32 → Option UInt32}
    (serves : ServesPages c server codec key e items next) {page : UInt32} (positive : 1 ≤ page)
    (size : UInt32) (s : σ) :
    ∃ r, (server s (pageGet e ⟨page, clampPageSize size⟩)).1 = .ok r ∧
      PageAnswer codec key (items page) (next page) r := by
  have answer := serves.answers s page size
  rwa [PageRequest.new, max_one_of_positive positive] at answer

theorem listing_run {c : Client} {server : σ → Request → Answer × σ} {codec : Codec α}
    {key : String} {e : Endpoint} (image : α → β) {resourceType token : String}
    {page size : UInt32} {items : List α} {next : Option UInt32} {s : σ} {r : Response}
    (points : PageStack.PointsAt resourceType token page) (reached : c.Reaches e)
    (answer : (server s (pageGet e ⟨page, clampPageSize size⟩)).1 = .ok r)
    (stands : PageAnswer codec key items next r) :
    ∃ p, (listing resourceType (fun p => c.page codec key e p []) image ⟨token, size⟩).run
        server s = (.done p, (server s (pageGet e ⟨page, clampPageSize size⟩)).2) ∧
      p.items = items.map image ∧ (p.nextToken = "" ↔ next = none) ∧
      ∀ n, next = some n → PageStack.PointsAt resourceType p.nextToken (max n 1) := by
  obtain ⟨place, resumed, request⟩ := PageStack.pointsAt_request points size
  obtain ⟨quota, run⟩ := page_run reached answer stands
  refine ⟨⟨items.map image, (⟨[⟨resourceType, place⟩]⟩ : PageStack).nextToken next,
    Annotations.withRateLimit [] quota⟩, ?_, rfl, PageStack.next_empty_iff _ next, ?_⟩
  · have called := Exchange.run_mapFailure_done run Fault.failure
    simp only [listing, resumed, request, Exchange.bind_ok]
    exact Exchange.run_bind_done called _
  · intro n follows
    subst next
    exact (PageStack.nextToken_some ⟨resourceType, place⟩ n).2

theorem listing_visit {c : Client} {server : σ → Request → Answer × σ} {codec : Codec α}
    {key : String} {e : Endpoint} {path : String} (leads : e.path = path) (image : α → β)
    {resourceType token : String} {items : UInt32 → List α} {next : UInt32 → Option UInt32}
    {page size : UInt32} {s : σ} {r : Response}
    (points : PageStack.PointsAt resourceType token page) (reached : c.Reaches e)
    (answer : (server s (pageGet e ⟨page, clampPageSize size⟩)).1 = .ok r)
    (stands : PageAnswer codec key (items page) (next page) r) :
    ∃ p, visit server (listing resourceType (fun p => c.page codec key e p []) image ⟨token, size⟩)
        s = (⟨[pageGet e ⟨page, clampPageSize size⟩], .done p⟩,
          (server s (pageGet e ⟨page, clampPageSize size⟩)).2) ∧
      VisitsPage e path image items next page size
        ⟨[pageGet e ⟨page, clampPageSize size⟩], .done p⟩ ∧
      ∀ n, next page = some n → PageStack.PointsAt resourceType p.nextToken (max n 1) := by
  have noted : (Exchange.recorded server (s, []) (pageGet e ⟨page, clampPageSize size⟩)).1 =
    .ok r := answer
  obtain ⟨p, run, images, ends, goesOn⟩ := listing_run image points reached noted stands
  have sent : (pageGet e ⟨page, clampPageSize size⟩).sent = .page path page (boundedSize size) := by
    rw [pageGet_sent, leads]
  refine ⟨p, visit_of_run run, ⟨rfl, ?_, clampPageSize_bounds size, p, rfl, images, ends⟩, goesOn⟩
  rw [List.map_singleton, sent]

theorem VisitsPage.sees {e : Endpoint} {path : String} {image : α → β} {items : UInt32 → List α}
    {next : UInt32 → Option UInt32} {page size : UInt32} {Points : String → UInt32 → Prop}
    {asked : List Request} {p : SyncPage β}
    (seen : VisitsPage e path image items next page size ⟨asked, .done p⟩)
    (goesOn : ∀ n, next page = some n → Points p.nextToken (max n 1)) :
    Sees Points (VisitsPage e path image items next) (orbit next) page size ⟨asked, .done p⟩ := by
  obtain ⟨_, same, _, ends⟩ := seen.gave
  cases same
  cases follows : next page with
  | none => exact .last seen (ends.mpr follows) fun n => by simp only [orbit, follows]
  | some following =>
    have more : p.nextToken ≠ "" := fun empty => by simp [ends.mp empty] at follows
    exact .more seen more (goesOn following follows) fun n => by simp only [orbit, follows]

theorem listing_sees {c : Client} {server : σ → Request → Answer × σ} {codec : Codec α}
    {key : String} {e : Endpoint} {path : String} (leads : e.path = path) (image : α → β)
    {resourceType token : String} {items : UInt32 → List α} {next : UInt32 → Option UInt32}
    {page : UInt32} (serves : ServesPages c server codec key e items next)
    (points : PageStack.PointsAt resourceType token page) (size : UInt32) (s : σ) :
    Sees (PageStack.PointsAt resourceType) (VisitsPage e path image items next) (orbit next) page
      size (visit server
        (listing resourceType (fun p => c.page codec key e p []) image ⟨token, size⟩) s).1 := by
  obtain ⟨r, answer, stands⟩ := serves.page (PageStack.pointsAt_positive points) size s
  obtain ⟨p, visited, seen, goesOn⟩ := listing_visit leads image points serves.reached answer stands
  rw [visited]
  exact seen.sees goesOn

theorem VisitsPage.images {e : Endpoint} {path : String} {image : α → β} {items : UInt32 → List α}
    {next : UInt32 → Option UInt32} (page size : UInt32) (v : Visit (SyncPage β))
    (seen : VisitsPage e path image items next page size v) :
    v.items = (items page).map image := by
  obtain ⟨p, outcome, given, _⟩ := seen.gave
  rw [Visit.items, outcome]
  exact given

theorem listing_walksCompletely {c : Client} {server : σ → Request → Answer × σ} {codec : Codec α}
    {key : String} {e : Endpoint} {path : String} (leads : e.path = path) {image : α → β}
    (resourceType : String) :
    WalksCompletely c server codec key e path image
      (listing resourceType (fun p => c.page codec key e p []) image) := by
  intro items next serves sizes s
  have seen := walk_follows (fun _ => rfl)
    (fun token page points => listing_sees leads image serves points) sizes
    (PageStack.empty_pointsAt resourceType) s
  refine ⟨seen, fun pages chain enough => ?_⟩
  rw [orbit_of_chain chain enough] at seen
  obtain ⟨count, images⟩ := items_of_visits VisitsPage.images seen enough
  exact ⟨count, by rw [images, List.map_flatMap]⟩

theorem members_listing {c : Client} {group : Resource} {id : UInt64}
    (numbered : recordId group.id = .ok id) :
    Syncer.requesterGroups.grants c group = listing requesterId (c.members id)
      fun m => Grant.new (requesterGroupEntitlement group) ⟨"requester", toString m.id⟩ := by
  funext token
  simp only [Syncer.grants, RequesterMembership.grants, recordIdOp_ok numbered, Exchange.done_bind,
    requesterPrincipal_eq]

/-- Every listing of the connector walks the pages of its records completely, and so does the
    listing of a requester group's members. -/
theorem every_record_listed_once (c : Client) (server : σ → Request → Answer × σ) :
    WalksCompletely c server Agent.codec "agents" .agents "agents" Agent.resource
      (Syncer.agents.list c) ∧
    WalksCompletely c server Requester.codec "requesters" .requesters "requesters"
      Requester.resource (Syncer.requesters.list c) ∧
    WalksCompletely c server AgentGroup.codec "groups" .groups "groups" AgentGroup.resource
      (Syncer.agentGroups.list c) ∧
    WalksCompletely c server Role.codec "roles" .roles "roles" Role.resource
      (Syncer.roles.list c) ∧
    WalksCompletely c server RequesterGroup.codec "requester_groups" .requesterGroups
      "requester_groups" RequesterGroup.resource (Syncer.requesterGroups.list c) ∧
    ∀ (group : Resource) (id : UInt64), recordId group.id = .ok id →
      WalksCompletely c server GroupMember.codec "requesters" (.members id)
        ("requester_groups/" ++ toString id ++ "/members")
        (fun m => Grant.new (requesterGroupEntitlement group) ⟨"requester", toString m.id⟩)
        (Syncer.requesterGroups.grants c group) := by
  refine ⟨listing_walksCompletely rfl agentId, listing_walksCompletely rfl requesterId,
    listing_walksCompletely rfl agentGroupId, listing_walksCompletely rfl roleId,
    listing_walksCompletely rfl requesterGroupId, ?_⟩
  intro group id numbered
  rw [members_listing numbered]
  exact listing_walksCompletely (Endpoint.members_path id) requesterId

def secondPage : String := "<https://acme.freshservice.com/api/v2/records?page=2>; rel=\"next\""

def brokenOff (codec : Codec α) (key : String) (items : List α) (page : UInt32) : Response :=
  if page = 1 then rendered codec.list key items [("Link", secondPage)] midnight
  else ⟨408, [], .ok "", midnight⟩

theorem secondPage_quota (codec : Codec α) (key : String) (a : α) :
    quota? (rendered codec key a [("Link", secondPage)] midnight) = some none := by
  have limit : header? [("Link", secondPage)] "X-RateLimit-Total" = none := by decide +kernel
  have left : header? [("Link", secondPage)] "X-RateLimit-Remaining" = none := by decide +kernel
  have delay : header? [("Link", secondPage)] "Retry-After" = none := by decide +kernel
  simp only [quota?, numberHeader?, Response.retryAfter, rendered, limit, left, delay]
  rfl

theorem secondPage_next : (header? [("Link", secondPage)] "Link").bind nextPage? = some 2 := by
  decide +kernel

theorem brokenOff_answers {codec : Codec α} {h : Nat} (faithful : codec.Faithful)
    (fits : codec.Fits h) (room : h + 1 < Json.Machine.depthLimit) (key : String) (items : List α)
    (page : UInt32) : PageAnswer codec key (if page = 1 then items else [])
      (if page = 1 then some 2 else none) (brokenOff codec key items page) := by
  by_cases first : page = 1
  · simp only [brokenOff, if_pos first]
    rw [← secondPage_next]
    refine .records (rendered_delivers (Codec.list_faithful faithful) (Codec.list_fits fits) room
      key items ?_)
    rw [secondPage_quota]
    rfl
  · simp only [brokenOff, if_neg first]
    exact .timedOut rfl

def twoPages (records : List α) : Paged α where
  items page := if page = 1 then records.take 1 else records.drop 1
  next page := if page = 1 then some 2 else none
  pages := [1, 2]
  chain := .more rfl (.last rfl)

theorem twoPages_records (records : List α) : (twoPages records).records = records := by
  cases records <;> simp [Paged.records, twoPages]

def onTwoPages (codec : Codec α) (key : String) (records : List α) (q : Request) : Response :=
  rendered codec.list key ((twoPages records).items (pageNumber q))
    (if pageNumber q = 1 then [("Link", secondPage)] else []) midnight

theorem onTwoPages_serves {c : Client} {server : σ → Request → Answer × σ} {codec : Codec α}
    {key : String} {e : Endpoint} (records : σ → List α) {h : Nat} (reached : c.Reaches e)
    (faithful : codec.Faithful) (fits : codec.Fits h) (room : h + 1 < Json.Machine.depthLimit)
    (answers : ∀ s p, (server s (pageGet e p)).1 = .ok (onTwoPages codec key (records s)
      (pageGet e p))) :
    ServesListing c server codec key e fun s _ => twoPages (records s) := by
  refine ⟨reached, fun s size page onChain => ⟨_, answers s _, ?_, ?_⟩⟩
  · rw [onTwoPages, pageNumber_pageGet]
    refine rendered_delivers (Codec.list_faithful faithful) (Codec.list_fits fits) room key _ ?_
    by_cases first : page = 1
    · simp only [first, ↓reduceIte, secondPage_quota]
      rfl
    · simp only [first, ↓reduceIte]
      rfl
  · rw [onTwoPages, pageNumber_pageGet]
    by_cases first : page = 1
    · simp only [first, ↓reduceIte, twoPages, rendered]
      exact secondPage_next
    · simp only [first, ↓reduceIte, twoPages, rendered]
      rfl

def visitors : List GroupMember :=
  [⟨12, some "Ann", none, none⟩, ⟨5, none, none, some "bo@acme.org"⟩]

theorem acme_members_listed_once :
    let group := RequesterGroup.resource ⟨7, "Visitors", none, none⟩
    let server := pagedServer fun _ => brokenOff GroupMember.codec "requesters" visitors
    let visits := walk server (Syncer.requesterGroups.grants acme group) [25, 0, 7] "" ()
    recordId group.id = .ok 7 ∧
      visits.map (fun v => v.asked.map acme.target?) =
        [[some "/api/v2/requester_groups/7/members?page=1&per_page=25"],
          [some "/api/v2/requester_groups/7/members?page=2&per_page=100"]] ∧
      visits.flatMap Visit.items =
        [Grant.new (requesterGroupEntitlement group) ⟨"requester", "12"⟩,
          Grant.new (requesterGroupEntitlement group) ⟨"requester", "5"⟩] := by
  intro group server visits
  have numbered : recordId group.id = .ok 7 := by decide +kernel
  have reached : acme.Reaches (.members 7) := reaches_of_isOk (by decide +kernel)
  have answers := brokenOff_answers GroupMember.codec_faithful GroupMember.codec_fits (by decide)
    "requesters" visitors
  have serves : ServesPages acme server GroupMember.codec "requesters" (.members 7) _ _ :=
    pagedServer_serves reached answers
  have walks := (every_record_listed_once acme server).2.2.2.2.2 group 7 numbered
  have chain : PageChain (fun page => if page = 1 then some 2 else none) 1 [1, 2] :=
    .more rfl (.last rfl)
  obtain ⟨seen, given⟩ := walks _ _ serves [25, 0, 7] ()
  rw [orbit_of_chain chain (by decide)] at seen
  have asked : visits.map Visit.asked = ([1, 2].zip [25, 0, 7]).map fun stop =>
      [pageGet (.members 7) ⟨stop.1, clampPageSize stop.2⟩] :=
    map_of_visits (fun _ _ _ own => own.asked) seen
  refine ⟨numbered, ?_, (given [1, 2] chain (by decide)).2⟩
  have targets := congrArg (List.map (List.map acme.target?)) asked
  rw [List.map_map] at targets
  exact targets.trans (by decide +kernel)

end IdentitySync.Desk
