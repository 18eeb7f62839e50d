import IdentitySync.Proofs.Desk.AccessCall
import IdentitySync.Proofs.Desk.PageWalk

/-!
Members of a requester group as a server serves them, cut into pages whose numbers increase. Two
loops read them: a change looks for one requester and stops where it finds him, and a walk through
the group's grants shows all of them. Both read the same pages, so both find the same requesters.
-/
namespace IdentitySync.Desk
open Http Client

/-- A listing in which every page lies behind the one that names it. -/
structure Pagination (α : Type) extends Paged α where
  forward : ∀ page ∈ pages, ∀ n, next page = some n → page < n

namespace Pagination

variable (l : Pagination GroupMember) (x : UInt64)

def shows (page : UInt32) : Bool := (l.items page).any fun m => m.id = x

def upTo (pages : List UInt32) : List UInt32 := pages.take (pages.findIdx (l.shows x) + 1)

def Has : Prop := ∃ m ∈ l.records, m.id = x

theorem shows_iff (page : UInt32) : l.shows x page = true ↔ ∃ m ∈ l.items page, m.id = x := by
  simp only [shows, List.any_eq_true, decide_eq_true_eq]

theorem has_iff : l.Has x ↔ l.pages.any (l.shows x) = true := by
  rw [List.any_eq_true]
  constructor
  · rintro ⟨m, present, same⟩
    obtain ⟨page, onPage, there⟩ := List.mem_flatMap.mp present
    exact ⟨page, onPage, (l.shows_iff x page).mpr ⟨m, there, same⟩⟩
  · rintro ⟨page, onPage, shown⟩
    obtain ⟨m, there, same⟩ := (l.shows_iff x page).mp shown
    exact ⟨m, List.mem_flatMap.mpr ⟨page, onPage, there⟩, same⟩

theorem upTo_found {page : UInt32} (rest : List UInt32) (shown : l.shows x page = true) :
    l.upTo x (page :: rest) = [page] := by
  simp [upTo, List.findIdx_cons, shown]

theorem upTo_further {page : UInt32} (rest : List UInt32) (missing : l.shows x page = false) :
    l.upTo x (page :: rest) = page :: l.upTo x rest := by
  simp [upTo, List.findIdx_cons, missing]

end Pagination

def membersGet (groupId : UInt64) (page size : UInt32) : Request :=
  pageGet (.members groupId) ⟨page, clampPageSize size⟩

/-- A server that serves the members of a group. Reading changes nothing of the listing, and however
    it is cut into pages, it shows the same requesters. -/
structure ServesMembers (c : Client) (server : σ → Request → Answer × σ) (groupId : UInt64)
    (cut : σ → UInt32 → Pagination GroupMember) : Prop where
  pages : ServesListing c server GroupMember.codec "requesters" (.members groupId)
    fun s size => (cut s size).toPaged
  kept : ∀ s size page, cut (server s (membersGet groupId page size)).2 = cut s
  same : ∀ s size size' x, (cut s size).Has x ↔ (cut s size').Has x

variable {σ : Type} {c : Client} {server : σ → Request → Answer × σ} {groupId : UInt64}
  {cut : σ → UInt32 → Pagination GroupMember}

theorem membersGet_hundred (groupId : UInt64) (page : UInt32) :
    membersGet groupId page 100 = pageGet (.members groupId) ⟨page, 100⟩ := by
  have full : clampPageSize 100 = 100 := by decide
  rw [membersGet, full]

theorem membersGet_sent (groupId : UInt64) (page size : UInt32) :
    (membersGet groupId page size).sent =
      .page ("requester_groups/" ++ toString groupId ++ "/members") page (boundedSize size) := by
  rw [membersGet, pageGet_sent, Endpoint.members_path]

theorem scan_page (serves : ServesMembers c server groupId cut) (x : UInt64) {s : σ}
    {page : UInt32} (onChain : page ∈ (cut s 100).pages) (before : List (Request × Answer)) :
    ∃ quota, (RequesterMembership.scan c groupId x ⟨page, 100⟩).run (Exchange.recorded server)
        (s, before) =
      ((if (cut s 100).shows x page then .done (true, quota)
        else match (cut s 100).next page with
          | none => .done (false, quota)
          | some next =>
            if page < next then RequesterMembership.scan c groupId x (.new next 100)
            else .done (false, quota)) : Call (Bool × Option RateLimit)).run
        (Exchange.recorded server)
        (Exchange.recorded server (s, before) (membersGet groupId page 100)).2 := by
  obtain ⟨r, answer, delivers, link⟩ := serves.pages.page s 100 page onChain
  rw [← membersGet, membersGet_hundred] at answer
  rw [membersGet_hundred]
  have noted : (Exchange.recorded server (s, before)
      (pageGet (.members groupId) ⟨page, 100⟩)).1 = .ok r := answer
  obtain ⟨quota, read⟩ := strictPage_run serves.pages.reached noted delivers
  rw [link] at read
  refine ⟨quota, ?_⟩
  rw [RequesterMembership.scan]
  exact Exchange.run_bind_done read _

/-- The scan from a page on asks for the pages from there to the first that shows the requester. -/
theorem scan_run (serves : ServesMembers c server groupId cut) (x : UInt64)
    {l : Pagination GroupMember} {page : UInt32} {rest : List UInt32}
    (chain : PageChain l.next page rest) (within : ∀ p ∈ rest, p ∈ l.pages) {s : σ}
    (own : cut s 100 = l) (before : List (Request × Answer)) :
    ∃ quota after, (RequesterMembership.scan c groupId x ⟨page, 100⟩).run
        (Exchange.recorded server) (s, before) = (.done (rest.any (l.shows x), quota), after) ∧
      cut after.1 = cut s ∧
      after.2.map Prod.fst =
        before.map Prod.fst ++ (l.upTo x rest).map fun page => membersGet groupId page 100 := by
  -- The server's state goes on with every page, but not the listing in it, so the rest of the chain
  -- is still the one that is scanned.
  induction chain generalizing s before with
  | @last page ends =>
    have onChain : page ∈ (cut s 100).pages := own ▸ within page List.mem_cons_self
    obtain ⟨quota, step⟩ := scan_page serves x onChain before
    rw [own, ends] at step
    refine ⟨quota, (Exchange.recorded server (s, before) (membersGet groupId page 100)).2,
      step.trans ?_, serves.kept s 100 page, ?_⟩
    · cases shown : l.shows x page with
      | true => simp [shown, Exchange.run]
      | false => simp [shown, Exchange.run]
    · have alone : l.upTo x [page] = [page] := List.take_of_length_le (by simp)
      simp [Exchange.recorded, alone]
  | @more page following rest follows tail ih =>
    have onChain : page ∈ (cut s 100).pages := own ▸ within page List.mem_cons_self
    obtain ⟨quota, step⟩ := scan_page serves x onChain before
    rw [own, follows] at step
    have kept := serves.kept s 100 page
    cases shown : l.shows x page with
    | true =>
      refine ⟨quota, (Exchange.recorded server (s, before) (membersGet groupId page 100)).2,
        step.trans ?_, kept, ?_⟩
      · simp [shown, Exchange.run]
      · simp [Exchange.recorded, l.upTo_found x rest shown]
    | false =>
      have ahead : page < following := l.forward page (own ▸ onChain) following follows
      have still : cut (server s (membersGet groupId page 100)).2 100 = l := by rw [kept, own]
      obtain ⟨quota', after, run, same, asked⟩ := ih
        (fun p hp => within p (List.mem_cons_of_mem _ hp)) still
        (before ++ [(membersGet groupId page 100, (server s (membersGet groupId page 100)).1)])
      simp only [shown, Bool.false_eq_true, ↓reduceIte, ahead] at step
      refine ⟨quota', after, ?_, same.trans kept, ?_⟩
      · rw [List.any_cons, shown, Bool.false_or]
        exact step.trans run
      · simp [asked, l.upTo_further x rest shown]

def memberGrant (group : Resource) (m : GroupMember) : Grant :=
  Grant.new (requesterGroupEntitlement group) ⟨"requester", toString m.id⟩

theorem grants_visit_page (serves : ServesMembers c server groupId cut) {group : Resource}
    (numbered : recordId group.id = .ok groupId) {s : σ} {size : UInt32}
    {l : Pagination GroupMember} (own : cut s size = l) {token : String} {page : UInt32}
    (points : PageStack.PointsAt requesterId token page) (onChain : page ∈ l.pages) :
    ∃ p, visit server (Syncer.requesterGroups.grants c group ⟨token, size⟩) s =
        (⟨[membersGet groupId page size], .done p⟩, (server s (membersGet groupId page size)).2) ∧
      VisitsPage (.members groupId) ("requester_groups/" ++ toString groupId ++ "/members")
        (memberGrant group) l.items l.next page size
        ⟨[membersGet groupId page size], .done p⟩ ∧
      ∀ n, l.next page = some n → PageStack.PointsAt requesterId p.nextToken (max n 1) := by
  obtain ⟨r, answer, stands⟩ := serves.pages.answer (congrArg Pagination.toPaged own) onChain
  obtain ⟨p, visited, seen, goesOn⟩ :=
    listing_visit (Endpoint.members_path groupId) (memberGrant group) points serves.pages.reached
      answer stands
  refine ⟨p, ?_, seen, goesOn⟩
  rw [members_listing numbered]
  exact visited

/-- A walk with sizes that cut the listing alike visits its pages, whatever it does to the server's
    state besides the listing. -/
theorem members_walk (serves : ServesMembers c server groupId cut) {group : Resource}
    (numbered : recordId group.id = .ok groupId) {s : σ} {l : Pagination GroupMember}
    (sizes : List UInt32) (alike : ∀ size ∈ sizes, cut s size = l)
    (enough : l.pages.length ≤ sizes.length) :
    (walk server (Syncer.requesterGroups.grants c group) sizes "" s).flatMap Visit.items =
      l.records.map (memberGrant group) := by
  have sees : ∀ token page, PageStack.PointsAt requesterId token page ∧ page ∈ l.pages →
      ∀ size, cut s size = l → ∀ s', cut s' = cut s →
        Sees (fun token page => PageStack.PointsAt requesterId token page ∧ page ∈ l.pages)
          (VisitsPage (.members groupId) ("requester_groups/" ++ toString groupId ++ "/members")
            (memberGrant group) l.items l.next) (orbit l.next) page size
          (visit server (Syncer.requesterGroups.grants c group ⟨token, size⟩) s').1 ∧
        cut (visit server (Syncer.requesterGroups.grants c group ⟨token, size⟩) s').2 = cut s := by
    rintro token page ⟨points, onChain⟩ size own s' same
    have own' : cut s' size = l := by rw [same, own]
    obtain ⟨p, visited, seen, goesOn⟩ := grants_visit_page serves numbered own' points onChain
    rw [visited]
    refine ⟨seen.sees fun n follows => ?_, (serves.kept s' size page).trans same⟩
    exact ⟨goesOn n follows, l.chain.next_mem page onChain n follows⟩
  have seen := walk_follows_within (fun _ => rfl) sees sizes alike
    ⟨PageStack.empty_pointsAt requesterId, l.chain.first_mem⟩ rfl
  rw [orbit_of_chain l.chain enough] at seen
  rw [(items_of_visits VisitsPage.images seen enough).2, Paged.records, List.map_flatMap]

/-- The walk shows a grant to exactly those whom the scan finds. -/
theorem walk_shows_iff (serves : ServesMembers c server groupId cut) {group : Resource}
    (numbered : recordId group.id = .ok groupId) {s : σ} {l : Pagination GroupMember}
    (sizes : List UInt32) (alike : ∀ size ∈ sizes, cut s size = l)
    (enough : l.pages.length ≤ sizes.length) (x : UInt64) :
    (∃ g ∈ (walk server (Syncer.requesterGroups.grants c group) sizes "" s).flatMap Visit.items,
      g.principal = ⟨"requester", toString x⟩) ↔ (cut s 100).Has x := by
  rw [members_walk serves numbered sizes alike enough]
  obtain ⟨size, hsize⟩ := l.exists_size enough
  rw [serves.same s 100 size x, alike size hsize]
  constructor
  · rintro ⟨g, given, same⟩
    obtain ⟨m, present, rfl⟩ := List.mem_map.mp given
    exact ⟨m, present, decimal_injective (congrArg ResourceId.resource same)⟩
  · rintro ⟨m, present, rfl⟩
    exact ⟨_, List.mem_map_of_mem present, rfl⟩

end IdentitySync.Desk
