import IdentitySync.Proofs.Desk.Addressing
import IdentitySync.Proofs.Desk.CallLog
import IdentitySync.Proofs.Desk.RoleScan
import IdentitySync.Proofs.Desk.SyncToken

/-!
When walks end. A call goes on to whatever page the answer's link names, also to one that it has
seen, so the walk's end is up to the server: one link back to the first page makes any walk endless.
Where links lead forward every call leaves fewer places than it found, and a walk from any token
ends after as many calls as there were.
-/
namespace IdentitySync

def pagesFrom (page : UInt32) : Nat := UInt32.size - (max page 1).toNat

theorem pagesFrom_pos (page : UInt32) : 0 < pagesFrom page :=
  Nat.sub_pos_of_lt (max page 1).toNat_lt

theorem pagesFrom_ahead {page next : UInt32} (ahead : max page 1 < next) :
    pagesFrom next < pagesFrom page := Desk.RequesterMembership.scan_advances ahead

/-- The numbers of pages from the one in a token on; one that cannot be read is a last place. -/
def placesFrom (token : String) : Nat :=
  match readPage token with
  | .ok page => pagesFrom page
  | .error _ => 1

theorem placesFrom_pos (token : String) : 0 < placesFrom token := by
  rw [placesFrom]
  split
  · exact pagesFrom_pos _
  · exact Nat.one_pos

theorem placesFrom_ahead {token : String} {size : UInt32} {p : PageRequest}
    (request : PageRequest.ofToken token size = .ok p) {next : UInt32} (ahead : p.page < next) :
    placesFrom (pageToken (some next)) < placesFrom token := by
  rw [PageRequest.ofToken] at request
  rw [placesFrom, placesFrom, PageStack.readPage_pageToken]
  cases read : readPage token with
  | error f =>
    rw [read] at request
    cases request
  | ok page =>
    rw [read] at request
    cases request
    exact pagesFrom_ahead ahead

namespace PageStack

def placesLeft (b : PageStack) : Nat := b.states.foldl (fun n s => n + placesFrom s.token) 0

theorem placesLeft_push (b : PageStack) (s : PageState) :
    (b.push s).placesLeft = b.placesLeft + placesFrom s.token := by
  rw [placesLeft, push, List.foldl_append]
  rfl

theorem pop_push {b : PageStack} {s : PageState} (current : b.current? = some s) :
    b.pop.push s = b := by
  obtain ⟨states⟩ := b
  exact congrArg mk (List.dropLast_append_getLast? s current)

/-- Going on to a page ahead uses up places, and so does leaving a listing. -/
theorem advance_placesLeft {b : PageStack} (listing : b.states ≠ []) {size : UInt32}
    {p : PageRequest} (request : b.request size = .ok p) {next : Option UInt32}
    (ahead : ∀ n, next = some n → p.page < n) :
    (b.advance (pageToken next)).placesLeft < b.placesLeft := by
  have current : b.current? = some (b.states.getLast listing) :=
    List.getLast?_eq_some_getLast listing
  have whole := congrArg placesLeft (pop_push current)
  rw [placesLeft_push] at whole
  rw [PageStack.request, current] at request
  cases next with
  | none =>
    have left : b.advance (pageToken none) = b.pop := rfl
    rw [left, ← whole]
    exact Nat.lt_add_of_pos_right (placesFrom_pos _)
  | some n =>
    have token : pageToken (some n) ≠ "" := Text.numeral_ne_empty n.toNat
    rw [advance, if_neg token, current, placesLeft_push, ← whole]
    exact Nat.add_lt_add_left (placesFrom_ahead request (ahead n rfl)) _

end PageStack

namespace Desk
open Http Exchange

variable {σ α β : Type} {server : σ → Request → Answer × σ} {c : Client}

/-- In answers to requests for pages every link leads to a page ahead. -/
def LinksForward (server : σ → Request → Answer × σ) : Prop :=
  ∀ s e more r n, ∀ p : PageRequest, (server s ⟨.get, e, p.query ++ more, none⟩).1 = .ok r →
    Client.nextOf r = some n → p.page < n

def Linked (log : CallLog) (p : PageRequest) (n : UInt32) : Prop :=
  ∃ e more r, (⟨.get, e, p.query ++ more, none⟩, .ok r) ∈ log ∧ Client.nextOf r = some n

theorem page_linked {codec : Codec α} {key : String} {e : Endpoint} {p : PageRequest}
    {more : List (String × String)} {log : CallLog} {page : Page α}
    (ends : Ends (c.page codec key e p more) log (.done page)) :
    ∀ n, page.next = some n → Linked log p n := by
  intro n next
  rcases Client.page_ends ends with ⟨r, _, _, given⟩ | ⟨strict, _⟩
  · cases given
    cases next
  · cases strict with
    | given success known good => exact ⟨e, more, _, List.mem_cons_self, next⟩

theorem Linked.mono {log log' : CallLog} {p : PageRequest} {n : UInt32} (linked : Linked log p n)
    (within : log ⊆ log') : Linked log' p n := by
  obtain ⟨e, more, r, asked, next⟩ := linked
  exact ⟨e, more, r, within asked, next⟩

def Ahead (log : CallLog) : Prop := ∀ p n, Linked log p n → p.page < n

theorem page_ahead {codec : Codec α} {key : String} {e : Endpoint} {p : PageRequest}
    {more : List (String × String)} {wrap : Fault → Failure} {log whole : CallLog} {page : Page α}
    (ends : Ends ((c.page codec key e p more).mapFailure wrap) log (.done page))
    (ahead : Ahead whole) (within : log ⊆ whole) : ∀ n, page.next = some n → p.page < n :=
  fun n next => ahead p n ((page_linked (Ends.of_mapFailure_done ends) n next).mono within)

theorem ahead_of_forward (forward : LinksForward server) (call : Op β) (s : σ) :
    Ahead (call.log server s) := by
  rintro p n ⟨e, more, r, asked, next⟩
  obtain ⟨s', answer⟩ := answer_of_log asked
  exact forward s' e more r n p answer.symm next

/-- A call that is done either was the last or leaves fewer places than it found. -/
def UsesUp (left : String → Nat) (token : String) (page : SyncPage β) : Prop :=
  page.nextToken = "" ∨ left page.nextToken < left token

def listingLeft (resourceType token : String) : Nat :=
  match PageStack.resume token resourceType with
  | .ok b => b.placesLeft
  | .error _ => 0

theorem resume_states {resourceType token : String} {b : PageStack}
    (resumed : PageStack.resume token resourceType = .ok b) : b.states ≠ [] := by
  cases read : PageStack.ofToken token with
  | error f =>
    rw [PageStack.resume_error read] at resumed
    cases resumed
  | ok _ =>
    obtain ⟨_, same, listing⟩ := PageStack.resume_ok read resourceType
    rw [same] at resumed
    cases resumed
    exact listing

theorem resume_token {b : PageStack} (listing : b.states ≠ []) (resourceType : String) :
    PageStack.resume b.token resourceType = .ok b := by
  rw [PageStack.resume, PageStack.ofToken_token]
  obtain ⟨states⟩ := b
  cases states with
  | nil => exact absurd rfl listing
  | cons s states => rfl

theorem listing_usesUp {resourceType : String} {codec : Codec α} {key : String} {e : Endpoint}
    {more : List (String × String)} {image : α → β} {token : PageToken} {log : CallLog}
    {page : SyncPage β}
    (ends : Ends (listing resourceType (fun p => c.page codec key e p more) image token) log
      (.done page)) (ahead : Ahead log) :
    UsesUp (listingLeft resourceType) token.token page := by
  obtain ⟨b, resumed, ends⟩ := Ends.of_bind_ok ends
  obtain ⟨p, request, ends⟩ := Ends.of_bind_ok ends
  obtain ⟨before, found, after, rfl, fetched, ends⟩ := Ends.of_bind_done ends
  cases ends
  have further := page_ahead fetched ahead (List.subset_append_left before [])
  have fewer := PageStack.advance_placesLeft (resume_states resumed) request further
  rw [UsesUp, PageStack.nextToken, PageStack.token_empty_iff]
  by_cases ended : (b.advance (pageToken found.next)).states = []
  · exact .inl ended
  · rw [listingLeft, listingLeft, resumed, resume_token ended]
    exact .inr fewer

def RoleCursor.placesLeft : RoleCursor → Nat
  | .users page => UInt32.size + pagesFrom page
  | .groups page => pagesFrom page
  | .done => 0

def scanLeft (token : String) : Nat :=
  match RoleCursor.ofToken token with
  | .ok cursor => cursor.placesLeft
  | .error _ => 0

theorem scanLeft_token (cursor : RoleCursor) (unfinished : cursor ≠ .done) :
    scanLeft cursor.token = cursor.placesLeft := by
  rw [scanLeft, RoleCursor.ofToken_token unfinished]

theorem afterUsers_left {page : UInt32} {next : Option UInt32}
    (ahead : ∀ n, next = some n → max page 1 < n) :
    scanLeft (RoleCursor.afterUsers next).token < (RoleCursor.users page).placesLeft := by
  cases next with
  | none =>
    rw [RoleCursor.afterUsers, scanLeft_token (.groups 1) (by rintro ⟨⟩)]
    exact Nat.lt_of_lt_of_le (by decide) (Nat.le_add_right _ _)
  | some n =>
    rw [RoleCursor.afterUsers, scanLeft_token (.users n) (by rintro ⟨⟩)]
    exact Nat.add_lt_add_left (pagesFrom_ahead (ahead n rfl)) _

theorem afterGroups_left {page : UInt32} {next : Option UInt32}
    (ahead : ∀ n, next = some n → max page 1 < n) :
    (RoleCursor.afterGroups next).token = "" ∨
      scanLeft (RoleCursor.afterGroups next).token < (RoleCursor.groups page).placesLeft := by
  cases next with
  | none => exact .inl rfl
  | some n =>
    rw [RoleCursor.afterGroups, scanLeft_token (.groups n) (by rintro ⟨⟩)]
    exact .inr (pagesFrom_ahead (ahead n rfl))

theorem scan_usesUp {role : Resource} {token : PageToken} {log : CallLog} {page : SyncPage Grant}
    (ends : Ends (RoleAssignment.grants c role token) log (.done page)) (ahead : Ahead log) :
    UsesUp scanLeft token.token page := by
  obtain ⟨before, id, rest, rfl, _, ends⟩ := Ends.of_bind_done ends
  obtain ⟨cursor, place, ends⟩ := Ends.of_bind_ok ends
  have left : scanLeft token.token = cursor.placesLeft := by rw [scanLeft, place]
  rw [UsesUp, left]
  cases cursor with
  | users n =>
    obtain ⟨asked, found, after, rfl, fetched, ends⟩ := Ends.of_bind_done ends
    cases ends
    exact .inr (afterUsers_left (page_ahead fetched ahead fun x hx =>
      List.mem_append_right before (List.mem_append_left [] hx)))
  | groups n =>
    obtain ⟨asked, found, after, rfl, fetched, ends⟩ := Ends.of_bind_done ends
    cases ends
    exact afterGroups_left (page_ahead fetched ahead fun x hx =>
      List.mem_append_right before (List.mem_append_left [] hx))
  | done =>
    cases ends
    exact .inl rfl

theorem schemas_usesUp {token : PageToken} {log : CallLog} {page : SyncPage TicketSchema}
    (ends : Ends (Ticketing.listSchemas c token) log (.done page)) (ahead : Ahead log) :
    UsesUp placesFrom token.token page := by
  obtain ⟨p, request, ends⟩ := Ends.of_bind_ok ends
  obtain ⟨asked, found, rest, rfl, fetched, ends⟩ := Ends.of_bind_done ends
  obtain ⟨details, schemas, after, rfl, _, ends⟩ := Ends.of_bind_done ends
  cases ends
  rw [UsesUp]
  cases follows : found.next with
  | none =>
    refine .inl ?_
    rw [Page.nextToken, follows]
    rfl
  | some n =>
    refine .inr ?_
    rw [Page.nextToken, follows]
    exact placesFrom_ahead request
      (page_ahead fetched ahead (List.subset_append_left asked _) n follows)

/-- Every call leaves fewer places than it found, so a walk has as many calls as there were. -/
structure WalkEnds (server : σ → Request → Answer × σ) (call : PageToken → Op (SyncPage β))
    (left : String → Nat) : Prop where
  step : ∀ token s page, (visit server (call token) s).1.outcome = .done page →
    UsesUp left token.token page
  walk : ∀ sizes token s, (walk server call sizes token s).length ≤ left token + 1

theorem walk_within {call : PageToken → Op (SyncPage β)} {left : String → Nat}
    (step : ∀ token s page, (visit server (call token) s).1.outcome = .done page →
      UsesUp left token.token page) (sizes : List UInt32) (token : String) (s : σ) :
    (walk server call sizes token s).length ≤ left token + 1 := by
  induction sizes generalizing token s with
  | nil => exact Nat.zero_le _
  | cons size sizes ih =>
    rw [walk, List.length_cons]
    split
    · rename_i page given
      split
      · exact Nat.le_add_left _ _
      · rename_i more
        have rest := ih page.nextToken (visit server (call ⟨token, size⟩) s).2
        rcases step ⟨token, size⟩ s page given with empty | fewer
        · exact absurd empty more
        · exact Nat.succ_le_succ (Nat.le_trans rest fewer)
    · exact Nat.le_add_left _ _

theorem walkEnds_of_usesUp (forward : LinksForward server) {call : PageToken → Op (SyncPage β)}
    {left : String → Nat}
    (usesUp : ∀ token log page, Ends (call token) log (.done page) → Ahead log →
      UsesUp left token.token page) : WalkEnds server call left := by
  have step : ∀ token s page, (visit server (call token) s).1.outcome = .done page →
      UsesUp left token.token page := by
    intro token s page given
    have ends := ends_of_run server (call token) s
    simp only [visit, run_recorded] at given
    rw [given] at ends
    exact usesUp token _ page ends (ahead_of_forward forward (call token) s)
  exact ⟨step, walk_within step⟩

theorem listing_walkEnds (forward : LinksForward server) (resourceType : String) (codec : Codec α)
    (key : String) (e : Endpoint) (image : α → β) :
    WalkEnds server (listing resourceType (fun p => c.page codec key e p []) image)
      (listingLeft resourceType) :=
  walkEnds_of_usesUp forward fun _ _ _ => listing_usesUp

/-- Where links lead forward every walk ends, from whatever token it starts. -/
theorem walks_end_where_links_lead_forward (c : Client) (server : σ → Request → Answer × σ)
    (forward : LinksForward server) :
    (∀ k : Syncer, WalkEnds server (k.list c) (listingLeft k.resourceType.id)) ∧
    (∀ group, WalkEnds server (Syncer.requesterGroups.grants c group) (listingLeft requesterId)) ∧
    (∀ role, WalkEnds server (Syncer.roles.grants c role) scanLeft) ∧
    WalkEnds server (Ticketing.listSchemas c) placesFrom := by
  refine ⟨fun k => ?_, fun group => ?_, fun role => ?_, ?_⟩
  · cases k with
    | agents => exact listing_walkEnds forward agentId Agent.codec "agents" .agents _
    | requesters => exact listing_walkEnds forward requesterId Requester.codec "requesters" _ _
    | agentGroups => exact listing_walkEnds forward agentGroupId AgentGroup.codec "groups" _ _
    | roles => exact listing_walkEnds forward roleId Role.codec "roles" .roles _
    | requesterGroups =>
      exact listing_walkEnds forward requesterGroupId RequesterGroup.codec "requester_groups" _ _
  · refine walkEnds_of_usesUp forward fun token log page ends ahead => ?_
    obtain ⟨before, id, rest, rfl, _, ends⟩ := Ends.of_bind_done ends
    refine listing_usesUp ends ?_
    exact fun p n linked => ahead p n (linked.mono (List.subset_append_right before rest))
  · exact walkEnds_of_usesUp forward fun _ _ _ => scan_usesUp
  · exact walkEnds_of_usesUp forward fun _ _ _ => schemas_usesUp

theorem visitors_walk_ends :
    let server := pagedServer fun _ => brokenOff GroupMember.codec "requesters" visitors
    let group := RequesterGroup.resource ⟨7, "Visitors", none, none⟩
    LinksForward server ∧ listingLeft requesterId "" = 4294967295 ∧
      WalkEnds server (Syncer.requesterGroups.grants acme group) (listingLeft requesterId) := by
  intro server group
  have forward : LinksForward server := by
    intro s e more r n p answer next
    have own : (p.query ++ more).lookup "page" = some (Text.numeral p.page.toNat) := rfl
    have number : pageNumber ⟨.get, e, p.query ++ more, none⟩ = p.page := by
      rw [pageNumber, own, Option.bind_some, Text.readWord32?_numeral, Option.getD_some]
    simp only [server, pagedServer, number] at answer
    cases answer
    by_cases first : p.page = 1
    · rw [brokenOff, if_pos first] at next
      have second := secondPage_next.symm.trans next
      cases second
      rw [first]
      decide
    · rw [brokenOff, if_neg first] at next
      cases next
  exact ⟨forward, by decide +kernel,
    (walks_end_where_links_lead_forward acme server forward).2.1 group⟩

theorem orbit_endless (n : Nat) (page : UInt32) : (orbit (fun _ => some 1) n page).length = n := by
  induction n generalizing page with
  | zero => rfl
  | succ n ih => rw [orbit, List.length_cons, ih]

theorem walk_endless {codec : Codec α} {key path : String} {e : Endpoint} {image : α → β}
    {call : PageToken → Op (SyncPage β)} {items : UInt32 → List α}
    (walks : WalksCompletely c server codec key e path image call)
    (back : ServesPages c server codec key e items fun _ => some 1) (sizes : List UInt32) (s : σ) :
    (walk server call sizes "" s).length = sizes.length := by
  have seen := (walks _ _ back sizes s).1.length_eq
  rw [← seen, List.length_zip, orbit_endless, Nat.min_self]

def listingKeys : List String :=
  ["agents", "requesters", "groups", "roles", "requester_groups", "service_items"]

def emptyLists : String := (Json.record (listingKeys.map fun key => (key, .list []))).text

def turnedBack : Response :=
  ⟨200, [("Link", "<https://acme.freshservice.com/api/v2/agents?page=1>; rel=\"next\"")],
    .ok emptyLists, midnight⟩

def isEmptyList : Json → Bool
  | .list [] => true
  | _ => false

theorem eq_empty_of_isEmptyList {found : Option Json} (empty : found.any isEmptyList = true) :
    found = some (.list []) := by
  match found, empty with
  | some (.list []), _ => rfl

theorem emptyLists_has {key : String} (listed : key ∈ listingKeys) :
    ∃ v, Json.parse? emptyLists = some v ∧ memberOf? key v.json = some (.list []) := by
  have whole : ((Json.parse? emptyLists).any fun v =>
      listingKeys.all fun key => (memberOf? key v.json).any isEmptyList) = true := by
    decide +kernel
  cases parsed : Json.parse? emptyLists with
  | none => rw [parsed] at whole; cases whole
  | some v =>
    rw [parsed] at whole
    exact ⟨v, rfl, eq_empty_of_isEmptyList (List.all_eq_true.mp whole key listed)⟩

theorem turnedBack_stands (codec : Codec α) {key : String} (listed : key ∈ listingKeys) :
    PageAnswer codec key [] (some 1) turnedBack := by
  obtain ⟨v, parsed, found⟩ := emptyLists_has listed
  have empty : decodeBody codec.list key turnedBack = .ok [] := by
    simp only [decodeBody, turnedBack, parsed, found]
    rfl
  have next : (header? turnedBack.headers "Link").bind nextPage? = some 1 := by decide +kernel
  rw [← next]
  exact .records ⟨rfl, by decide +kernel, empty⟩

theorem turnedBack_serves (codec : Codec α) {key : String} (listed : key ∈ listingKeys)
    (e : Endpoint) :
    ServesPages acme (constantServer turnedBack) codec key e (fun _ => []) fun _ => some 1 :=
  ⟨acme_reaches e, fun _ _ _ => ⟨turnedBack, rfl, turnedBack_stands codec listed⟩⟩

theorem scan_endless {role : Resource} {id : UInt64} {agents : UInt32 → List Agent}
    {groups : UInt32 → List AgentGroup} (numbered : recordId role.id = .ok id)
    (forAgents : ServesPages c server Agent.codec "agents" .agents agents fun _ => some 1)
    (forGroups : ServesPages c server AgentGroup.codec "groups" .groups groups fun _ => some 1)
    (sizes : List UInt32) (s : σ) :
    (walk server (Syncer.roles.grants c role) sizes "" s).length = sizes.length := by
  have begins : RoleCursor.PointsAt "" .start := ⟨by decide, rfl⟩
  have seen := walk_follows (RoleCursor.stopsFrom_zero (fun _ => some 1) fun _ => some 1)
    (fun token cursor points => scan_sees numbered forAgents forGroups points) sizes begins s
  have stops : (RoleCursor.start.stopsFrom (fun _ => some 1) (fun _ => some 1)
      sizes.length).length = sizes.length := by
    simp only [RoleCursor.start, RoleCursor.stopsFrom, orbit_endless, Nat.sub_self, orbit,
      List.map_nil, List.append_nil, List.length_map]
  have count := seen.length_eq
  rw [List.length_zip, stops, Nat.min_self] at count
  exact count.symm

def AtFirst (token : String) : Prop := ∀ size, PageRequest.ofToken token size = .ok (.new 1 size)

theorem schemas_visit {token : String} (first : AtFirst token) (size : UInt32) (s : Unit) :
    ∃ asked notes, visit (constantServer turnedBack) (Ticketing.listSchemas acme ⟨token, size⟩) s =
      (⟨asked, .done ⟨[], pageToken (some 1), notes⟩⟩, ()) := by
  have stands := turnedBack_stands CatalogItem.codec (by decide : "service_items" ∈ listingKeys)
  have noted : (recorded (constantServer turnedBack) (s, []) (Client.pageGet .items
    (.new 1 size))).1 = .ok turnedBack := rfl
  obtain ⟨quota, run⟩ := Client.page_run (acme_reaches .items) noted stands
  have called := run_mapFailure_done run Fault.failure
  refine ⟨[Client.pageGet .items (.new 1 size)], Annotations.withRateLimit [] quota, ?_⟩
  refine visit_of_run ?_
  rw [Ticketing.listSchemas, first size, bind_ok]
  refine (run_bind_done called _).trans ?_
  rfl

theorem schemas_endless (sizes : List UInt32) {token : String} (first : AtFirst token) (s : Unit) :
    (walk (constantServer turnedBack) (Ticketing.listSchemas acme) sizes token s).length =
      sizes.length := by
  induction sizes generalizing token s with
  | nil => rfl
  | cons size sizes ih =>
    obtain ⟨asked, notes, seen⟩ := schemas_visit first size s
    have again : AtFirst (pageToken (some 1)) := by
      intro size
      rw [PageRequest.ofToken, PageStack.readPage_pageToken]
      rfl
    have more : pageToken (some 1) ≠ "" := Text.numeral_ne_empty 1
    rw [walk_more seen more, List.length_cons, List.length_cons, ih again]

/-- One answer makes all walks endless: an empty page that links to the first. -/
theorem links_back_walk_forever :
    ∃ r : Response, ∀ sizes : List UInt32,
      (∀ k : Syncer, (walk (constantServer r) (k.list acme) sizes "" ()).length = sizes.length) ∧
      (∀ group id, recordId group.id = .ok id →
        (walk (constantServer r) (Syncer.requesterGroups.grants acme group) sizes "" ()).length =
          sizes.length) ∧
      (∀ role id, recordId role.id = .ok id →
        (walk (constantServer r) (Syncer.roles.grants acme role) sizes "" ()).length =
          sizes.length) ∧
      (walk (constantServer r) (Ticketing.listSchemas acme) sizes "" ()).length =
        sizes.length := by
  refine ⟨turnedBack, fun sizes => ⟨fun k => ?_, fun group id numbered => ?_,
    fun role id numbered => ?_, schemas_endless sizes (fun _ => rfl) ()⟩⟩
  · cases k with
    | agents =>
      exact walk_endless (listing_walksCompletely rfl agentId)
        (turnedBack_serves Agent.codec (by decide) .agents) sizes ()
    | requesters =>
      exact walk_endless (listing_walksCompletely rfl requesterId)
        (turnedBack_serves Requester.codec (by decide) .requesters) sizes ()
    | agentGroups =>
      exact walk_endless (listing_walksCompletely rfl agentGroupId)
        (turnedBack_serves AgentGroup.codec (by decide) .groups) sizes ()
    | roles =>
      exact walk_endless (listing_walksCompletely rfl roleId)
        (turnedBack_serves Role.codec (by decide) .roles) sizes ()
    | requesterGroups =>
      exact walk_endless (listing_walksCompletely rfl requesterGroupId)
        (turnedBack_serves RequesterGroup.codec (by decide) .requesterGroups) sizes ()
  · rw [members_listing numbered]
    exact walk_endless (listing_walksCompletely rfl requesterId)
      (turnedBack_serves GroupMember.codec (by decide) (.members id)) sizes ()
  · exact scan_endless numbered (turnedBack_serves Agent.codec (by decide) .agents)
      (turnedBack_serves AgentGroup.codec (by decide) .groups) sizes ()

end Desk

end IdentitySync
